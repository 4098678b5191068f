import FieldCheck.Proofs.DictionaryReading
import FieldCheck.Proofs.SessionReplay
import FieldCheck.Proofs.TokenGrammar

/-!
# Which template words a failure

A failure is worded by a template of its field, by one of the catalog, or by
the default of its kind.  `Validator.InForce` reads the choice off the history
of a validator: the last registration for the field counts and, inside it, the
last pair for the rule; then the last catalog that was set counts and, inside
it, the last pair for the kind.  A template of a field has to have a text, one
of a catalog may be empty.
-/

namespace FieldCheck

/-- What pairs of kinds and templates give for a kind: the last one counts,
even when it is empty, and without one the default does. -/
inductive Message.Catalog.Gives (pairs : List (Message.Kind × String))
    (kind : Message.Kind) : String → Prop where
  | set {template : String}
      (last : LastSuch (fun pair => pair.1 = kind) pairs (kind, template)) :
      Gives pairs kind template
  | default (silent : ∀ pair ∈ pairs, pair.1 ≠ kind) :
      Gives pairs kind kind.defaultTemplate

theorem Message.Catalog.gives_iff {pairs : List (Message.Kind × String)}
    {kind : Message.Kind} {template : String} :
    Gives pairs kind template ↔
      template = (Message.Catalog.ofPairs pairs).template kind := by
  have kept : ∀ (catalog : Message.Catalog) (pair : Message.Kind × String),
      ¬ pair.1 = kind →
        (catalog.set pair.1 pair.2).template kind = catalog.template kind := by
    intro catalog pair other
    rw [template_set, if_neg (Ne.symm other)]
  have written : ∀ (catalog : Message.Catalog)
      (pair : Message.Kind × String), pair.1 = kind →
        (catalog.set pair.1 pair.2).template kind = pair.2 := by
    intro catalog pair here
    rw [template_set, if_pos here.symm]
  rw [eq_comm]
  unfold ofPairs
  rw [view_foldl_eq_iff (Catalog.template · kind) kept written]
  constructor
  · intro gives
    cases gives with
    | set last => exact .inl ⟨_, last, rfl⟩
    | default silent => exact .inr ⟨silent, template_standard kind⟩
  · intro shown
    rcases shown with ⟨⟨_, text⟩, last, rfl⟩ | ⟨silent, rfl⟩
    · obtain rfl : _ = kind := last.has
      exact .set last
    · rw [template_standard]
      exact .default silent

def Settings.templates (settings : Settings) : List (Message.Kind × String) :=
  settings.messages.entries.filterMap (fun entry =>
    (Message.Kind.ofText? entry.1).map (fun kind => (kind, entry.2)))

theorem Settings.addTemplates_eq_ok {entries : List (String × String)}
    {start result : Message.Catalog}
    (added : addTemplates entries start = .ok result) :
    result =
      (entries.filterMap (fun entry =>
        (Message.Kind.ofText? entry.1).map (fun kind => (kind, entry.2)))).foldl
        (fun catalog pair => catalog.set pair.1 pair.2) start := by
  induction entries generalizing start with
  | nil =>
      cases added
      rfl
  | cons entry rest induction =>
      obtain ⟨name, template⟩ := entry
      unfold addTemplates at added
      cases read : Message.Kind.ofText? name with
      | none => simp [read] at added
      | some kind =>
          simp only [read] at added
          rw [induction added]
          simp [read]

theorem Settings.catalog_eq_ofPairs {settings : Settings}
    {catalog : Message.Catalog} (described : settings.catalog = .ok catalog) :
    catalog = Message.Catalog.ofPairs settings.templates :=
  addTemplates_eq_ok described

namespace Validator

def Operation.setsCatalog : Operation → Bool
  | .useCatalog _ => true
  | _ => false

def Operation.registers (key : String) : Operation → Bool
  | .useOwnMessages field _ => field == key
  | _ => false

def Operation.registered? : Operation → Option (List (String × String))
  | .useOwnMessages _ templates => some templates
  | _ => none

def Operation.catalogPairs : Operation → List (Message.Kind × String)
  | .useCatalog pairs => pairs
  | _ => []

theorem Operation.setsCatalog_iff {operation : Operation} :
    operation.setsCatalog = true ↔ ∃ pairs, operation = .useCatalog pairs := by
  cases operation <;> simp [setsCatalog]

theorem Operation.registers_iff {operation : Operation} {key : String} :
    operation.registers key = true ↔
      ∃ templates, operation = .useOwnMessages key templates := by
  cases operation <;> simp [registers]

/-- The templates of the last registration for a field. -/
def Registered (history : List Operation) (key : String)
    (templates : List (String × String)) : Prop :=
  LastSuch (fun operation => operation.registers key = true) history
    (.useOwnMessages key templates)

/-- The template that a field has of its own for a rule: the last one named
for the rule in the last registration, provided that it has a text. -/
def OwnTemplate (history : List Operation) (key : String) (name : RuleName)
    (template : String) : Prop :=
  template ≠ "" ∧ ∃ templates, Registered history key templates ∧
    LastSuch (fun pair => pair.1 = name.text) templates (name.text, template)

/-- The pairs that the catalog in force was made from: those of the last one
that was set, and those of the settings before any was. -/
inductive CatalogPairs (start : Validator) (history : List Operation) :
    List (Message.Kind × String) → Prop where
  | replaced {pairs : List (Message.Kind × String)}
      (last : LastSuch (fun operation => operation.setsCatalog = true) history
        (.useCatalog pairs)) :
      CatalogPairs start history pairs
  | original
      (silent : ∀ operation ∈ history, ¬ operation.setsCatalog = true) :
      CatalogPairs start history start.settings.templates

/-- The template in force for a rule on a field after a history. -/
inductive InForce (start : Validator) (history : List Operation)
    (key : String) (valueClass : ValueClass) (name : RuleName) :
    String → Prop where
  | own {template : String} (own : OwnTemplate history key name template) :
      InForce start history key valueClass name template
  | catalog {pairs : List (Message.Kind × String)} {template : String}
      (noOwn : ∀ own, ¬ OwnTemplate history key name own)
      (inForce : CatalogPairs start history pairs)
      (gives : Message.Catalog.Gives pairs (Message.Kind.ofRule name valueClass)
        template) :
      InForce start history key valueClass name template

section Histories

variable {validator start : Validator} {operation : Operation}
  {history : List Operation} {key : String} {valueClass : ValueClass}
  {name : RuleName}

theorem view_tryValidate {γ : Type} (view : Validator → γ)
    (blind : ∀ validator : Validator, view validator.cleared = view validator)
    (fields : List Field) :
    view (validator.tryValidate fields).2 = view validator := by
  rw [← blind, tryValidate_cleared, blind]

theorem settings_after :
    (validator.after operation).settings = validator.settings := by
  cases operation with
  | useCatalog | useOwnMessages | checkOwn => rfl
  | tryValidate fields | validate fields =>
      exact view_tryValidate Validator.settings (fun _ => rfl) fields

theorem settings_afterAll :
    (validator.afterAll history).settings = validator.settings :=
  view_foldl_of_silent Validator.settings
    (fun _ _ (_ : ¬ False) => settings_after) (fun _ _ => id)

theorem catalog_after_of_not (other : ¬ operation.setsCatalog = true) :
    (validator.after operation).catalog = validator.catalog := by
  cases operation with
  | useCatalog => exact absurd rfl other
  | useOwnMessages | checkOwn => rfl
  | tryValidate fields | validate fields =>
      exact view_tryValidate Validator.catalog (fun _ => rfl) fields

theorem ownMessages_after_of_not (other : ¬ operation.registers key = true) :
    (validator.after operation).ownMessages.get? key =
      validator.ownMessages.get? key := by
  cases operation with
  | useOwnMessages field templates =>
      have different : key ≠ field := by
        intro same
        exact other (by simp [Operation.registers, same])
      exact (Dictionary.get?_insert _ field _ key).trans (if_neg different)
  | useCatalog | checkOwn => rfl
  | tryValidate fields | validate fields =>
      exact view_tryValidate (fun validator => validator.ownMessages.get? key)
        (fun _ => rfl) fields

theorem Made.ownMessages (made : start.Made) :
    start.ownMessages = Dictionary.empty := by
  cases made with
  | standard => rfl
  | ofSettings made =>
      obtain ⟨catalog, _, rfl⟩ := exceptMap_eq_ok_iff.mp made
      rfl

theorem Made.catalog (made : start.Made) :
    start.catalog = Message.Catalog.ofPairs start.settings.templates := by
  cases made with
  | standard => rfl
  | ofSettings made =>
      obtain ⟨catalog, described, rfl⟩ := exceptMap_eq_ok_iff.mp made
      exact Settings.catalog_eq_ofPairs described

theorem get?_ownMessages_afterAll_iff (made : start.Made)
    {own : Dictionary String} :
    (start.afterAll history).ownMessages.get? key = some own ↔
      ∃ templates, Registered history key templates ∧
        own = Dictionary.ofPairs templates := by
  have written : ∀ (validator : Validator) (operation : Operation),
      operation.registers key = true →
        (validator.after operation).ownMessages.get? key =
          operation.registered?.map Dictionary.ofPairs := by
    intro validator operation here
    obtain ⟨templates, rfl⟩ := Operation.registers_iff.mp here
    exact (Dictionary.get?_insert _ key _ key).trans (if_pos rfl)
  unfold afterAll
  rw [view_foldl_eq_iff
    (fun validator : Validator => validator.ownMessages.get? key)
    (fun _ _ => ownMessages_after_of_not) written, made.ownMessages,
    Dictionary.get?_empty]
  constructor
  · intro shown
    rcases shown with ⟨operation, last, same⟩ | ⟨_, impossible⟩
    · obtain ⟨templates, rfl⟩ := Operation.registers_iff.mp last.has
      exact ⟨templates, last, (Option.some.inj same).symm⟩
    · contradiction
  · intro described
    obtain ⟨templates, last, rfl⟩ := described
    exact .inl ⟨_, last, rfl⟩

theorem hasOwn_afterAll_iff (made : start.Made) {own : String} :
    (start.afterAll history).HasOwn key name own ↔
      OwnTemplate history key name own := by
  unfold HasOwn OwnTemplate
  simp only [get?_ownMessages_afterAll_iff made,
    ← Dictionary.get?_ofPairs_eq_some_iff]
  constructor
  · intro described
    obtain ⟨hasText, _, ⟨templates, last, rfl⟩, read⟩ := described
    exact ⟨hasText, templates, last, read⟩
  · intro described
    obtain ⟨hasText, templates, last, read⟩ := described
    exact ⟨hasText, _, ⟨templates, last, rfl⟩, read⟩

theorem catalog_afterAll (made : start.Made)
    {pairs : List (Message.Kind × String)}
    (inForce : CatalogPairs start history pairs) :
    (start.afterAll history).catalog = Message.Catalog.ofPairs pairs := by
  have written : ∀ (validator : Validator) (operation : Operation),
      operation.setsCatalog = true →
        (validator.after operation).catalog =
          Message.Catalog.ofPairs operation.catalogPairs := by
    intro validator operation here
    obtain ⟨pairs, rfl⟩ := Operation.setsCatalog_iff.mp here
    rfl
  cases inForce with
  | replaced last =>
      exact view_foldl_of_lastSuch Validator.catalog
        (fun _ _ => catalog_after_of_not) written last
  | original silent =>
      rw [← made.catalog]
      exact view_foldl_of_silent Validator.catalog
        (fun _ _ => catalog_after_of_not) silent

theorem exists_catalogPairs (start : Validator) (history : List Operation) :
    ∃ pairs, CatalogPairs start history pairs := by
  rcases exists_lastSuch_or_none
    (fun operation : Operation => operation.setsCatalog = true) history
    with ⟨operation, last⟩ | silent
  · obtain ⟨pairs, rfl⟩ := Operation.setsCatalog_iff.mp last.has
    exact ⟨pairs, .replaced last⟩
  · exact ⟨_, .original silent⟩

theorem inForce_iff (made : start.Made) {template : String} :
    InForce start history key valueClass name template ↔
      template = (start.afterAll history).template key valueClass name := by
  rw [← words_iff]
  constructor
  · intro inForce
    cases inForce with
    | own own => exact .own ((hasOwn_afterAll_iff made).mpr own)
    | catalog noOwn pairsInForce gives =>
        rw [Message.Catalog.gives_iff, ← catalog_afterAll made pairsInForce]
          at gives
        subst gives
        exact .catalog (fun own registered =>
          noOwn own ((hasOwn_afterAll_iff made).mp registered))
  · intro words
    cases words with
    | own registered => exact .own ((hasOwn_afterAll_iff made).mp registered)
    | catalog unregistered =>
        obtain ⟨pairs, pairsInForce⟩ := exists_catalogPairs start history
        refine .catalog ?_ pairsInForce ?_
        · intro own isOwn
          exact unregistered own ((hasOwn_afterAll_iff made).mpr isOwn)
        · rw [Message.Catalog.gives_iff, catalog_afterAll made pairsInForce]

/-- Histories with the same templates for a field and the same catalogs leave
the same template. -/
theorem template_afterAll_congr (made : start.Made) {others : List Operation}
    (sameOwn : ∀ template, OwnTemplate others key name template ↔
      OwnTemplate history key name template)
    (samePairs : ∀ pairs, CatalogPairs start others pairs ↔
      CatalogPairs start history pairs) :
    (start.afterAll others).template key valueClass name =
      (start.afterAll history).template key valueClass name := by
  apply (inForce_iff made).mp
  have inForce : InForce start others key valueClass name
      ((start.afterAll others).template key valueClass name) :=
    (inForce_iff made).mpr rfl
  cases inForce with
  | own own => exact .own ((sameOwn _).mp own)
  | catalog noOwn pairsInForce gives =>
      refine .catalog ?_ ((samePairs _).mp pairsInForce) gives
      intro own isOwn
      exact noOwn own ((sameOwn own).mpr isOwn)

theorem registered_filter {templates : List (String × String)} :
    Registered (history.filter (Operation.registers key)) key templates ↔
      Registered history key templates :=
  lastSuch_filter (fun _ => id)

theorem catalogPairs_filter {pairs : List (Message.Kind × String)} :
    CatalogPairs start (history.filter Operation.setsCatalog) pairs ↔
      CatalogPairs start history pairs := by
  have lastIff : ∀ pairs : List (Message.Kind × String),
      LastSuch (fun operation : Operation => operation.setsCatalog = true)
          (history.filter Operation.setsCatalog) (.useCatalog pairs) ↔
        LastSuch (fun operation : Operation => operation.setsCatalog = true)
          history (.useCatalog pairs) :=
    fun _ => lastSuch_filter (fun _ => id)
  have silentIff :
      (∀ operation ∈ history.filter Operation.setsCatalog,
        ¬ operation.setsCatalog = true) ↔
      ∀ operation ∈ history, ¬ operation.setsCatalog = true := by
    constructor
    · intro silent operation member here
      exact silent operation (List.mem_filter.mpr ⟨member, here⟩) here
    · intro silent operation member
      exact silent operation (List.mem_filter.mp member).1
  constructor
  · intro inForce
    cases inForce with
    | replaced last => exact .replaced ((lastIff pairs).mp last)
    | original silent => exact .original (silentIff.mp silent)
  · intro inForce
    cases inForce with
    | replaced last => exact .replaced ((lastIff pairs).mpr last)
    | original silent => exact .original (silentIff.mpr silent)

theorem catalogPairs_congr {others : List Operation}
    (sameCatalogs : others.filter Operation.setsCatalog =
      history.filter Operation.setsCatalog)
    (pairs : List (Message.Kind × String)) :
    CatalogPairs start others pairs ↔ CatalogPairs start history pairs := by
  rw [← catalogPairs_filter, sameCatalogs, catalogPairs_filter]

/-- Only catalogs and registrations for a field have a part in its
templates. -/
theorem template_afterAll_of_filters (made : start.Made)
    {others : List Operation}
    (sameCatalogs : others.filter Operation.setsCatalog =
      history.filter Operation.setsCatalog)
    (sameRegistrations : others.filter (Operation.registers key) =
      history.filter (Operation.registers key)) :
    (start.afterAll others).template key valueClass name =
      (start.afterAll history).template key valueClass name := by
  apply template_afterAll_congr made
  · intro template
    unfold OwnTemplate
    have sameRegistered : ∀ templates,
        Registered others key templates ↔
          Registered history key templates := by
      intro templates
      rw [← registered_filter, sameRegistrations, registered_filter]
    simp only [sameRegistered]
  · exact catalogPairs_congr sameCatalogs

theorem registered_append_cons {before after : List Operation}
    {templates others : List (String × String)} :
    Registered (before ++ .useOwnMessages key templates :: after) key others ↔
      Registered (.useOwnMessages key templates :: after) key others :=
  lastSuch_append_cons (by simp [Operation.registers])

/-- A registration takes the place of all that came before it for its
field. -/
theorem template_afterAll_of_registered (made : start.Made)
    {before after : List Operation} {templates : List (String × String)} :
    (start.afterAll (before.filter Operation.setsCatalog ++
        .useOwnMessages key templates :: after)).template key valueClass
          name =
      (start.afterAll (before ++
        .useOwnMessages key templates :: after)).template key valueClass
          name := by
  apply template_afterAll_congr made
  · intro template
    unfold OwnTemplate
    simp only [registered_append_cons]
  · apply catalogPairs_congr
    simp [List.filter_append]

theorem registered_concat {templates others : List (String × String)} :
    Registered (history ++ [.useOwnMessages key templates]) key others ↔
      others = templates := by
  have last : Registered (history ++ [.useOwnMessages key templates]) key
      templates :=
    ⟨history, [], rfl, by simp [Operation.registers], by simp⟩
  constructor
  · intro otherLast
    simpa using otherLast.unique last
  · intro same
    rw [same]
    exact last

/-- Inside a registration only the pairs for a rule have a part in its
template. -/
theorem template_afterAll_of_named (made : start.Made)
    {templates : List (String × String)} :
    (start.afterAll (history ++ [.useOwnMessages key
        (templates.filter (fun pair => pair.1 = name.text))])).template key
          valueClass name =
      (start.afterAll (history ++ [.useOwnMessages key templates])).template
        key valueClass name := by
  apply template_afterAll_congr made
  · intro template
    unfold OwnTemplate
    have sameLast :
        LastSuch (fun pair => pair.1 = name.text)
            (templates.filter (fun pair => pair.1 = name.text))
            (name.text, template) ↔
          LastSuch (fun pair => pair.1 = name.text) templates
            (name.text, template) :=
      lastSuch_filter (fun _ => by simp)
    simp only [registered_concat, exists_eq_left, sameLast]
  · apply catalogPairs_congr
    simp [List.filter_append, Operation.setsCatalog]

/-- A message that a pass records is worded by the template in force and
repeats the literal of the rule as it is written. -/
theorem worded_of_recorded (made : start.Made) {fields : List Field}
    {message : Message}
    (recorded : ((start.afterAll history).tryValidate fields).2.report.get?
      key = some message) :
    ∃ field valueClass rule token literal?,
      FirstSuch (fun field => field.key = key ∧
        field.Fails start.settings.presence) fields field ∧
      field.FirstBroken start.settings.presence valueClass rule ∧
      token ∈ Expression.tokens field.rules ∧
      Rule.Spelled rule token literal? ∧
      InForce start history key valueClass rule.name message.template ∧
      message = Message.render message.template
        (if field.label = "" then key else field.label) literal? := by
  rcases (start.afterAll history).firstDefect_or_sound fields with
    ⟨fault, first⟩ | sound
  · rw [tryValidate_of_firstDefect first] at recorded
    contradiction
  · rw [tryValidate_of_sound sound] at recorded
    obtain ⟨field, valueClass, rule, template, first, broken, words, rfl⟩ :=
      (get?_gathered_eq_some_iff sound).mp recorded
    rw [settings_afterAll] at first broken
    obtain ⟨token, isToken, read⟩ := List.mem_filterMap.mp broken.first.mem
    obtain ⟨_, rfl⟩ := ValueClass.rule?_eq_some_iff.mp read
    refine ⟨field, valueClass, rule, rule.write, rule.literal?, first, broken,
      isToken, rule.spelled_write, ?_, ?_⟩
    · exact (inForce_iff made).mpr (words_iff.mp words)
    · obtain rfl : field.key = key := first.has.1
      simp [Field.displayLabel]

end Histories

/-- Which template words a failure.  A message recorded by a pass is worded by
the template that the history puts in force for its field and rule, and this is
one template only.  Catalogs and registrations for other fields, in whatever
order they stand to those for the field, earlier registrations for the field
and pairs for other rules have no part in it. -/
theorem template_of_history {start : Validator} (made : start.Made)
    (history : List Operation) :
    (∀ fields pass key message,
      pass = .tryValidate fields ∨ pass = .validate fields →
      ((start.afterAll history).after pass).report.get? key = some message →
        ∃ field valueClass rule token literal?,
          FirstSuch (fun field => field.key = key ∧
            field.Fails start.settings.presence) fields field ∧
          field.FirstBroken start.settings.presence valueClass rule ∧
          token ∈ Expression.tokens field.rules ∧
          Rule.Spelled rule token literal? ∧
          InForce start history key valueClass rule.name message.template ∧
          message = Message.render message.template
            (if field.label = "" then key else field.label) literal?) ∧
    (∀ key valueClass name template,
      InForce start history key valueClass name template ↔
        template =
          (start.afterAll history).template key valueClass name) ∧
    (∀ others key valueClass name,
      others.filter Operation.setsCatalog =
        history.filter Operation.setsCatalog →
      others.filter (Operation.registers key) =
        history.filter (Operation.registers key) →
        (start.afterAll others).template key valueClass name =
          (start.afterAll history).template key valueClass name) ∧
    (∀ before after key templates valueClass name,
      history = before ++ .useOwnMessages key templates :: after →
        (start.afterAll (before.filter Operation.setsCatalog ++
            .useOwnMessages key templates :: after)).template key valueClass
              name =
          (start.afterAll history).template key valueClass name) ∧
    (∀ key templates valueClass (name : RuleName),
      (start.afterAll (history ++ [.useOwnMessages key
          (templates.filter (fun pair => pair.1 = name.text))])).template key
            valueClass name =
        (start.afterAll (history ++
          [.useOwnMessages key templates])).template key valueClass name) := by
  refine ⟨?_, fun _ _ _ _ => inForce_iff made,
    fun _ _ _ _ => template_afterAll_of_filters made, ?_,
    fun _ _ _ _ => template_afterAll_of_named made⟩
  · intro fields pass key message isPass recorded
    rcases isPass with rfl | rfl
    · exact worded_of_recorded made recorded
    · exact worded_of_recorded made recorded
  · intro before after key templates valueClass name equal
    rw [equal]
    exact template_afterAll_of_registered made

/-- The last registration for `name` has an empty template for the rule that
fails, so the catalog words the failure, by an empty template too. -/
theorem template_of_history_empty :
    let settings := Settings.standard.withMessage .alpha "letters"
    let start : Validator :=
      ⟨settings, Message.Catalog.standard.set .alpha "letters",
        Dictionary.empty, Report.empty⟩
    let history : List Operation :=
      [.useOwnMessages "name" [("alpha", "old"), ("max", "long")],
        .useCatalog [(.alpha, "no"), (.email, "mail"), (.alpha, "")],
        .useOwnMessages "age" [("min", "young")],
        .useOwnMessages "name" [("alpha", "new"), ("alpha", "")]]
    let fields : List Field := [⟨"name", "Name", .text "Bob1", "alpha,max=2"⟩]
    start.Made ∧
      ((start.afterAll history).after (.tryValidate fields)).report.get?
        "name" = some ⟨"", ""⟩ ∧
      InForce start history "name" .text .alpha "" := by
  intro settings start history fields
  have described : Validator.ofSettings settings = .ok start := rfl
  have made : start.Made := .ofSettings described
  have recorded :
      ((start.afterAll history).after (.tryValidate fields)).report.get?
        "name" = some ⟨"", ""⟩ := by
    decide +kernel
  have inForce : InForce start history "name" .text .alpha "" :=
    ((template_of_history made history).2.1 "name" .text .alpha "").mpr rfl
  exact ⟨made, recorded, inForce⟩

end Validator

end FieldCheck
