import FieldCheck.Proofs.RuleArguments
import Mathlib.Data.List.Forall2
import Mathlib.Logic.Relation

/-!
# What a declaration binds

A declaration has a binding when its `validatable` attributes choose modules,
its shape is that of a record and each of its `rule` attributes is read.  The
binding then holds what the `rule` attributes say, one after the other, and
refers to the module that is chosen last.  What else stands in a declaration
makes no difference.
-/

namespace FieldCheck.Binding

theorem exists_forall₂_iff {α β : Type} {related : α → β → Prop}
    {items : List α} :
    (∃ images, List.Forall₂ related items images) ↔
      ∀ item ∈ items, ∃ image, related item image := by
  induction items with
  | nil => simp
  | cons item rest induction =>
      rw [List.forall_mem_cons, ← induction]
      simp only [List.forall₂_cons_left_iff]
      constructor
      · intro described
        obtain ⟨_, image, images, here, there, _⟩ := described
        exact ⟨⟨image, here⟩, images, there⟩
      · intro described
        obtain ⟨⟨image, here⟩, images, there⟩ := described
        exact ⟨_, image, images, here, there, rfl⟩

theorem forall_mem_of_forall₂ {α β : Type} {related : α → β → Prop}
    {property : β → Prop} {items : List α} {images : List β}
    (rows : List.Forall₂ related items images)
    (has : ∀ item ∈ items, ∀ image, related item image → property image) :
    ∀ image ∈ images, property image := by
  induction rows with
  | nil => simp
  | @cons item image items images here _ induction =>
      obtain ⟨itemHas, restHas⟩ := List.forall_mem_cons.mp has
      exact List.forall_mem_cons.mpr ⟨itemHas image here, induction restHas⟩

/-- An argument of a `validatable` attribute that chooses a module. -/
structure Argument.Chooses (argument : Argument) (path : ModulePath) :
    Prop where
  named : argument.name = "crate"
  given : ∃ source, argument.value = .text source ∧
    ModulePath.parse source = .ok path

def Arguments.listed : Arguments → List Argument
  | .bracketed lexemes => (Lexeme.listing lexemes).arguments
  | .none | .assigned => []

def moduleArguments (attributes : List Attribute) : List Argument :=
  (attributes.filter (·.path = "validatable")).flatMap (·.arguments.listed)

/-- Each `validatable` attribute has arguments in brackets, as names with texts
and commas between them. -/
def ListsModules (attributes : List Attribute) : Prop :=
  ∀ item ∈ attributes, item.path = "validatable" →
    ∃ arguments, item.arguments.Lists arguments

section Modules

variable {argument : Argument} {arguments : List Argument}
  {attributes : List Attribute} {current? home? : Option ModulePath}
  {path : ModulePath}

theorem moduleOfArgument_eq_ok_iff :
    moduleOfArgument argument = .ok path ↔ argument.Chooses path := by
  unfold moduleOfArgument
  by_cases named : argument.name = "crate"
  · rw [if_pos named]
    constructor
    · intro read
      cases given : argument.value.content with
      | error fault => simp [given, bind, Except.bind] at read
      | ok source =>
          refine ⟨named, source, content_eq_ok_iff.mp given, ?_⟩
          cases parsed : ModulePath.parse source <;>
            simp_all [bind, Except.bind, Except.mapError]
    · intro chooses
      obtain ⟨_, source, given, parsed⟩ := chooses
      simp [given, ArgumentValue.content, bind, Except.bind, parsed,
        Except.mapError]
  · rw [if_neg named]
    simp only [reduceCtorEq, false_iff]
    intro chooses
    exact named chooses.named

theorem getLast?_cons_or (paths : List ModulePath) :
    (path :: paths).getLast?.or current? = paths.getLast?.or (some path) := by
  rw [List.getLast?_cons]
  cases paths.getLast? <;> rfl

theorem moduleOfArguments_eq_ok_iff :
    moduleOfArguments current? arguments = .ok home? ↔
      ∃ paths, List.Forall₂ Argument.Chooses arguments paths ∧
        home? = paths.getLast?.or current? := by
  induction arguments generalizing current? with
  | nil => simp [moduleOfArguments, eq_comm]
  | cons argument rest induction =>
      unfold moduleOfArguments
      cases read : moduleOfArgument argument with
      | error fault =>
          simp only [reduceCtorEq, false_iff, not_exists, not_and]
          intro paths chosen
          obtain ⟨path, others, chooses, _, rfl⟩ :=
            List.forall₂_cons_left_iff.mp chosen
          rw [← moduleOfArgument_eq_ok_iff, read] at chooses
          contradiction
      | ok path =>
          have chooses := moduleOfArgument_eq_ok_iff.mp read
          simp only [induction]
          constructor
          · intro described
            obtain ⟨paths, chosen, rfl⟩ := described
            exact ⟨path :: paths, .cons chooses chosen,
              (getLast?_cons_or paths).symm⟩
          · intro described
            obtain ⟨_, chosen, rfl⟩ := described
            obtain ⟨other, paths, otherChooses, restChosen, rfl⟩ :=
              List.forall₂_cons_left_iff.mp chosen
            rw [← moduleOfArgument_eq_ok_iff, read] at otherChooses
            cases otherChooses
            exact ⟨paths, restChosen, getLast?_cons_or paths⟩

theorem moduleOfArguments_append (later : List Argument) :
    moduleOfArguments current? (arguments ++ later) =
      match moduleOfArguments current? arguments with
      | .error fault => .error fault
      | .ok home? => moduleOfArguments home? later := by
  induction arguments generalizing current? with
  | nil => rfl
  | cons argument rest induction =>
      rw [List.cons_append, moduleOfArguments, moduleOfArguments]
      cases moduleOfArgument argument with
      | error fault => rfl
      | ok path => exact induction

theorem moduleArguments_cons (item : Attribute) :
    moduleArguments (item :: attributes) =
      (if item.path = "validatable" then item.arguments.listed else []) ++
        moduleArguments attributes := by
  unfold moduleArguments
  by_cases named : item.path = "validatable" <;> simp [named]

theorem listsModules_cons (item : Attribute) :
    ListsModules (item :: attributes) ↔
      (item.path = "validatable" →
        ∃ arguments, item.arguments.Lists arguments) ∧
      ListsModules attributes :=
  List.forall_mem_cons

theorem Argument.Chooses.isPlain (chooses : argument.Chooses path) :
    argument.IsPlain := by
  obtain ⟨named, source, given, _⟩ := chooses
  refine ⟨?_, source, given⟩
  rw [named]
  decide

theorem forall_isPlain_of_moduleOfArguments
    (read : moduleOfArguments current? arguments = .ok home?) :
    ∀ argument ∈ arguments, argument.IsPlain := by
  obtain ⟨paths, chosen, _⟩ := moduleOfArguments_eq_ok_iff.mp read
  intro argument inside
  obtain ⟨path, chooses⟩ :=
    exists_forall₂_iff.mp ⟨paths, chosen⟩ argument inside
  exact chooses.isPlain

theorem read_moduleOfArguments_eq_ok_iff {lexemes : List Lexeme} :
    (Lexeme.listing lexemes).read (moduleOfArguments current?) = .ok home? ↔
      (∃ arguments, Lexeme.Lists lexemes arguments) ∧
        moduleOfArguments current? (Lexeme.listing lexemes).arguments =
          .ok home? := by
  rw [Listing.read_eq_ok_iff]
  constructor
  · rintro ⟨read, flawless⟩
    exact ⟨⟨_, Lexeme.lists_listing
      (forall_isPlain_of_moduleOfArguments read) flawless⟩, read⟩
  · rintro ⟨⟨arguments, lists⟩, read⟩
    exact ⟨read, by rw [Lexeme.listing_of_lists lists]⟩

theorem moduleOfAttributes_eq_ok_iff :
    moduleOfAttributes current? attributes = .ok home? ↔
      ListsModules attributes ∧
        moduleOfArguments current? (moduleArguments attributes) =
          .ok home? := by
  induction attributes generalizing current? with
  | nil => simp [moduleOfAttributes, ListsModules, moduleArguments,
      moduleOfArguments]
  | cons item rest induction =>
      rw [listsModules_cons, moduleArguments_cons]
      unfold moduleOfAttributes
      by_cases named : item.path = "validatable"
      · simp only [if_pos named]
        cases held : item.arguments with
        | none => simp [named, Arguments.Lists]
        | assigned => simp [named, Arguments.Lists]
        | bracketed lexemes =>
            have lists : (∃ arguments,
                (Arguments.bracketed lexemes).Lists arguments) ↔
                  ∃ arguments, Lexeme.Lists lexemes arguments := by
              simp [Arguments.Lists]
            simp only [Arguments.listed, moduleOfArguments_append, lists,
              named, true_imp_iff]
            cases read : (Lexeme.listing lexemes).read
                (moduleOfArguments current?) with
            | error fault =>
                cases chosen : moduleOfArguments current?
                    (Lexeme.listing lexemes).arguments with
                | error fault => simp
                | ok middle? =>
                    have broken :
                        ¬ ∃ arguments, Lexeme.Lists lexemes arguments := by
                      intro derived
                      have wholly := read_moduleOfArguments_eq_ok_iff.mpr
                        ⟨derived, chosen⟩
                      rw [read] at wholly
                      contradiction
                    simp [broken]
            | ok middle? =>
                obtain ⟨derived, chosen⟩ :=
                  read_moduleOfArguments_eq_ok_iff.mp read
                simp [chosen, derived, induction]
      · simp only [if_neg named, List.nil_append, induction]
        simp [named]

/-- Modules are chosen when every argument of every attribute chooses one. -/
theorem exists_moduleOfAttributes_iff :
    (∃ home?, moduleOfAttributes none attributes = .ok home?) ↔
      ListsModules attributes ∧
        ∀ argument ∈ moduleArguments attributes,
          ∃ path, argument.Chooses path := by
  simp only [moduleOfAttributes_eq_ok_iff, exists_and_left,
    ← exists_forall₂_iff, moduleOfArguments_eq_ok_iff]
  constructor
  · intro read
    obtain ⟨lists, _, paths, chosen, _⟩ := read
    exact ⟨lists, paths, chosen⟩
  · intro described
    obtain ⟨lists, paths, chosen⟩ := described
    exact ⟨lists, _, paths, chosen, rfl⟩

theorem standardModule_text :
    standardModule.text = "::fieldrule_validation" := by
  decide +kernel

end Modules

section Bounds

variable {declaration : Declaration} {member : String} {arguments : Arguments}
  {attributes : List (String × Arguments)} {bound : Bound}
  {bounds : List Bound}

theorem boundsOfAttributes_eq_ok_iff :
    boundsOfAttributes attributes = .ok bounds ↔
      List.Forall₂ (fun item bound =>
        boundOfArguments item.1 item.2 = .ok bound) attributes bounds := by
  induction attributes generalizing bounds with
  | nil => simp [boundsOfAttributes, eq_comm]
  | cons item rest induction =>
      rw [List.forall₂_cons_left_iff, boundsOfAttributes]
      cases read : boundOfArguments item.1 item.2 with
      | error fault => simp
      | ok bound =>
          simp only [← induction, Except.ok.injEq]
          cases boundsOfAttributes rest <;> simp [Except.map, eq_comm]

theorem forall_ruleAttributes_iff {property : String × Arguments → Prop} :
    (∀ item ∈ declaration.ruleAttributes, property item) ↔
      ∀ member ∈ declaration.members, ∀ item ∈ member.attributes,
        item.path = "rule" → property (member.name, item.arguments) := by
  simp only [Declaration.ruleAttributes, Member.ruleAttributes,
    List.forall_mem_flatMap, List.forall_mem_map, List.mem_filter,
    decide_eq_true_eq, and_imp]

theorem ofDeclaration_eq_ok_iff {binding : Binding} :
    ofDeclaration declaration = .ok binding ↔
      ∃ home? bounds,
        moduleOfAttributes none declaration.attributes = .ok home? ∧
        declaration.shape = .record ∧
        boundsOfAttributes declaration.ruleAttributes = .ok bounds ∧
        binding = ⟨home?.getD standardModule, declaration.name,
          declaration.parameters, bounds⟩ := by
  unfold ofDeclaration
  cases moduleOfAttributes none declaration.attributes with
  | error fault => simp
  | ok home? =>
      cases declaration.shape <;>
        cases boundsOfAttributes declaration.ruleAttributes <;>
        simp [Shape.fault?, Except.map, eq_comm]

/-- Which declarations have a binding. -/
theorem exists_ofDeclaration_iff :
    (∃ binding, ofDeclaration declaration = .ok binding) ↔
      (∃ home?,
        moduleOfAttributes none declaration.attributes = .ok home?) ∧
      declaration.shape = .record ∧
      ∃ bounds, boundsOfAttributes declaration.ruleAttributes = .ok bounds := by
  constructor
  · intro made
    obtain ⟨binding, made⟩ := made
    obtain ⟨home?, bounds, module, shape, read, _⟩ :=
      ofDeclaration_eq_ok_iff.mp made
    exact ⟨⟨home?, module⟩, shape, bounds, read⟩
  · intro parts
    obtain ⟨⟨home?, module⟩, shape, bounds, read⟩ := parts
    exact ⟨_, ofDeclaration_eq_ok_iff.mpr
      ⟨home?, bounds, module, shape, read, rfl⟩⟩

theorem exists_boundsOfAttributes_iff :
    (∃ bounds, boundsOfAttributes declaration.ruleAttributes = .ok bounds) ↔
      ∀ member ∈ declaration.members, ∀ item ∈ member.attributes,
        item.path = "rule" →
          ∃ bound,
            boundOfArguments member.name item.arguments = .ok bound := by
  simp only [boundsOfAttributes_eq_ok_iff, exists_forall₂_iff]
  exact forall_ruleAttributes_iff

end Bounds

section Keys

/-- The name of a field: an identifier, with or without the mark of raw form in
front. -/
def IsMemberName (name : String) : Prop :=
  ∃ first rest, Text.startsIdentifier first = true ∧
    (∀ character ∈ rest, Text.continuesIdentifier character = true) ∧
    (name.toList = first :: rest ∨ name.toList = 'r' :: '#' :: first :: rest)

variable {member : String} {arguments : Arguments} {bound : Bound}

/-- Ranges may be gone through as a list, which takes fewer steps. -/
theorem continuesIdentifier_eq (character : Char) :
    Text.continuesIdentifier character =
      (Text.identifierStart.ranges.toList ++
        Text.identifierRest.ranges.toList).any (fun range =>
          range.1 ≤ character.toNat && character.toNat ≤ range.2) := by
  rw [Text.continuesIdentifier, Text.CharacterSet.contains,
    Text.CharacterSet.contains, List.any_append, Array.any_toList,
    Array.any_toList]

theorem continuesIdentifier_mark : Text.continuesIdentifier '#' = false := by
  rw [continuesIdentifier_eq]
  decide +kernel

theorem withoutRawMark_of_identifier {first : Char} {rest : List Char}
    (continues : ∀ character ∈ rest,
      Text.continuesIdentifier character = true) :
    withoutRawMark (first :: rest) = first :: rest := by
  have noMark : '#' ∉ rest := by
    intro inside
    have goesOn := continues '#' inside
    rw [continuesIdentifier_mark] at goesOn
    contradiction
  unfold withoutRawMark
  split <;> simp_all

theorem standardKey_ne_empty (isName : IsMemberName member) :
    standardKey member ≠ "" := by
  obtain ⟨first, rest, _, continues, plain | raw⟩ := isName
  · rw [standardKey, plain, withoutRawMark_of_identifier continues]
    simp
  · rw [standardKey, raw, withoutRawMark,
      withoutRawMark_of_identifier continues]
    simp

theorem member_of_boundOfArguments
    (read : boundOfArguments member arguments = .ok bound) :
    bound.member = member := by
  cases boundOfArguments_eq_ok_iff.mp read <;> rfl

theorem key_ne_empty (isName : IsMemberName member)
    (read : boundOfArguments member arguments = .ok bound) :
    bound.key ≠ "" := by
  cases boundOfArguments_eq_ok_iff.mp read with
  | literal alone => exact standardKey_ne_empty isName
  | @named _ key? _ _ _ _ _ notEmpty _ _ =>
      cases key? with
      | none => exact standardKey_ne_empty isName
      | some key =>
          intro empty
          exact notEmpty (congrArg some empty)

end Keys

/-- A declaration without one of the parts that do not concern its binding: a
field without `rule` attributes, or an attribute with another path. -/
inductive Declaration.Omits : Declaration → Declaration → Prop where
  | field {declaration : Declaration} {before after : List Member}
      {member : Member} (split : declaration.members = before ++ member :: after)
      (unbound : ∀ item ∈ member.attributes, item.path ≠ "rule") :
      Omits declaration { declaration with members := before ++ after }
  | fieldAttribute {declaration : Declaration} {before after : List Member}
      {member : Member} {front back : List Attribute} {item : Attribute}
      (split : declaration.members = before ++ member :: after)
      (inside : member.attributes = front ++ item :: back)
      (other : item.path ≠ "rule") :
      Omits declaration
        { declaration with
          members :=
            before ++ { member with attributes := front ++ back } :: after }
  | ownAttribute {declaration : Declaration} {front back : List Attribute}
      {item : Attribute} (split : declaration.attributes = front ++ item :: back)
      (other : item.path ≠ "validatable") :
      Omits declaration { declaration with attributes := front ++ back }

section Omissions

variable {left right : Declaration}

theorem ofDeclaration_congr (sameShape : left.shape = right.shape)
    (sameName : left.name = right.name)
    (sameParameters : left.parameters = right.parameters)
    (sameModule : moduleOfAttributes none left.attributes =
      moduleOfAttributes none right.attributes)
    (sameRules : left.ruleAttributes = right.ruleAttributes) :
    ofDeclaration left = ofDeclaration right := by
  unfold ofDeclaration
  rw [sameShape, sameName, sameParameters, sameModule, sameRules]

theorem moduleOfAttributes_omit {item : Attribute}
    (other : item.path ≠ "validatable") (front back : List Attribute)
    (current? : Option ModulePath) :
    moduleOfAttributes current? (front ++ item :: back) =
      moduleOfAttributes current? (front ++ back) := by
  induction front generalizing current? with
  | nil => rw [List.nil_append, moduleOfAttributes, if_neg other, List.nil_append]
  | cons first front induction =>
      rw [List.cons_append, List.cons_append, moduleOfAttributes,
        moduleOfAttributes]
      simp only [induction]

theorem ruleAttributes_of_unbound {member : Member}
    (unbound : ∀ item ∈ member.attributes, item.path ≠ "rule") :
    member.ruleAttributes = [] := by
  unfold Member.ruleAttributes
  rw [List.filter_eq_nil_iff]
  simpa using unbound

/-- Leaving out such a part changes neither the binding nor a complaint. -/
theorem ofDeclaration_of_omits (omits : left.Omits right) :
    ofDeclaration right = ofDeclaration left := by
  cases omits with
  | field split unbound =>
      refine ofDeclaration_congr rfl rfl rfl rfl ?_
      simp [Declaration.ruleAttributes, split, ruleAttributes_of_unbound unbound]
  | fieldAttribute split inside other =>
      refine ofDeclaration_congr rfl rfl rfl rfl ?_
      simp [Declaration.ruleAttributes, Member.ruleAttributes, split, inside,
        other]
  | ownAttribute split other =>
      refine ofDeclaration_congr rfl rfl rfl ?_ rfl
      rw [split]
      exact (moduleOfAttributes_omit other _ _ none).symm

theorem ofDeclaration_of_eqvGen
    (related : Relation.EqvGen Declaration.Omits left right) :
    ofDeclaration right = ofDeclaration left := by
  induction related with
  | rel _ _ omits => exact ofDeclaration_of_omits omits
  | refl => rfl
  | symm _ _ _ induction => exact induction.symm
  | trans _ _ _ _ _ first second => exact second.trans first

end Omissions

/-- A declaration has a binding exactly when its `validatable` attributes choose
modules, it is a record and all its `rule` attributes are read.  The binding
holds what these describe, in order and each for its own field, and refers
everywhere to the module that is chosen last; no key is empty.  Fields without
`rule` attributes and attributes with other paths make no difference, not even
to a complaint. -/
theorem binding_of_declaration (declaration : Declaration) :
    ((∃ binding, ofDeclaration declaration = .ok binding) ↔
      (ListsModules declaration.attributes ∧
        ∀ argument ∈ moduleArguments declaration.attributes,
          ∃ path, argument.Chooses path) ∧
      declaration.shape = .record ∧
      ∀ member ∈ declaration.members, ∀ item ∈ member.attributes,
        item.path = "rule" →
          ∃ bound, boundOfArguments member.name item.arguments = .ok bound) ∧
    (∀ binding, ofDeclaration declaration = .ok binding →
      List.Forall₂ (fun item bound =>
          boundOfArguments item.1 item.2 = .ok bound ∧
            Describes item.1 item.2 bound ∧
            bound.valueText = "&self." ++ item.1)
        declaration.ruleAttributes binding.bounds ∧
      (∃ paths, List.Forall₂ Argument.Chooses
          (moduleArguments declaration.attributes) paths ∧
        binding.home = paths.getLast?.getD standardModule ∧
        standardModule.text = "::fieldrule_validation") ∧
      binding.interfacePath = binding.home.text ++ "::Validatable" ∧
      binding.descriptorPath = binding.home.text ++ "::FieldDescriptor::new" ∧
      ((∀ member ∈ declaration.members, IsMemberName member.name) →
        ∀ bound ∈ binding.bounds, bound.key ≠ "")) ∧
    (∀ other, Relation.EqvGen Declaration.Omits declaration other →
      ofDeclaration other = ofDeclaration declaration) := by
  refine ⟨?_, ?_, fun _ => ofDeclaration_of_eqvGen⟩
  · rw [exists_ofDeclaration_iff, exists_moduleOfAttributes_iff,
      exists_boundsOfAttributes_iff]
  · intro binding made
    obtain ⟨home?, bounds, module, _, read, rfl⟩ :=
      ofDeclaration_eq_ok_iff.mp made
    have rows := boundsOfAttributes_eq_ok_iff.mp read
    refine ⟨?_, ?_, ?_, ?_, ?_⟩
    · apply rows.imp
      intro item bound itemRead
      refine ⟨itemRead, boundOfArguments_eq_ok_iff.mp itemRead, ?_⟩
      rw [Bound.valueText, member_of_boundOfArguments itemRead]
    · obtain ⟨paths, chosen, home⟩ := moduleOfArguments_eq_ok_iff.mp
        (moduleOfAttributes_eq_ok_iff.mp module).2
      exact ⟨paths, chosen, by rw [home, Option.or_none],
        standardModule_text⟩
    · rw [interfacePath, ModulePath.item, String.append_assoc]
      rfl
    · rw [descriptorPath, ModulePath.item, String.append_assoc]
      rfl
    · intro names
      refine forall_mem_of_forall₂ rows ?_
      rw [forall_ruleAttributes_iff]
      intro member inside _ _ _ bound itemRead
      exact key_ne_empty (names member inside) itemRead

/-- Of two modules the later one is chosen, a field may be bound twice, and one
that is not annotated may as well be missing. -/
theorem binding_of_declaration_two_modules :
    let bound : Member :=
      ⟨"r#type", [⟨"rule", .literal "required"⟩,
        ⟨"rule", .named [⟨"key", .text ""⟩, ⟨"label", .text "Kind"⟩,
          ⟨"rules", .text "alpha"⟩, ⟨"key", .text "kind"⟩]⟩]⟩
    let unbound : Member := ⟨"note", [⟨"doc", .literal "rule"⟩]⟩
    let declaration (members : List Member) : Declaration :=
      ⟨.record, "Account", [],
        [⟨"validatable", .named [⟨"crate", .text "a"⟩]⟩,
          ⟨"doc", .literal ""⟩,
          ⟨"validatable", .named [⟨"crate", .text "b"⟩]⟩], members⟩
    let binding : Binding :=
      ⟨⟨false, [⟨"b", ""⟩]⟩, "Account", [],
        [⟨"r#type", "type", none, "required"⟩,
          ⟨"r#type", "kind", some "Kind", "alpha"⟩]⟩
    ofDeclaration (declaration [bound, unbound]) = .ok binding ∧
      ofDeclaration (declaration [bound]) = .ok binding ∧
      binding.interfacePath = "b::Validatable" ∧
      ∀ bound ∈ binding.bounds, bound.key ≠ "" := by
  intro bound unbound declaration binding
  have made : ofDeclaration (declaration [bound, unbound]) = .ok binding := by
    decide +kernel
  have names : ∀ member ∈ [bound, unbound], IsMemberName member.name := by
    intro member inside
    simp only [List.mem_cons, List.not_mem_nil, or_false] at inside
    rcases inside with rfl | rfl
    · exact ⟨'t', "ype".toList, by decide +kernel,
        List.all_eq_true.mp (by decide +kernel), .inr (by decide)⟩
    · exact ⟨'n', "ote".toList, by decide +kernel,
        List.all_eq_true.mp (by decide +kernel), .inl (by decide)⟩
  have omitted :
      (declaration [bound, unbound]).Omits (declaration [bound]) :=
    .field (show _ = [bound] ++ unbound :: [] from rfl) (by decide)
  obtain ⟨_, described, independent⟩ :=
    binding_of_declaration (declaration [bound, unbound])
  obtain ⟨_, _, interface, _, keys⟩ := described binding made
  refine ⟨made, ?_, ?_, keys names⟩
  · rw [independent _ (.rel _ _ omitted), made]
  · rw [interface]
    decide +kernel

end FieldCheck.Binding
