import FieldCheck.Proofs.BindingAdequacy

/-!
# Rearranged arguments

What a `rule` attribute binds is read off the last argument of each name.  So
arguments of different names may change places, and an argument may be left out
when a later one has its name.  The short form, which gives the rules alone,
binds what a single argument binds.
-/

namespace FieldCheck.Binding

/-- An identifier that is not in raw form. -/
def IsIdentifier (name : String) : Prop :=
  ∃ first rest, name.toList = first :: rest ∧
    Text.startsIdentifier first = true ∧
    ∀ character ∈ rest, Text.continuesIdentifier character = true

/-- Arguments after a change that binds nothing else: those of different names
have changed places, or one is left out that has a later one of its name. -/
inductive Rearranges (arguments : List Argument) : List Argument → Prop where
  | reorder {others : List Argument}
      (sameByName : ∀ name, others.filter (·.name = name) =
        arguments.filter (·.name = name)) :
      Rearranges arguments others
  | drop {before after : List Argument} {shadowed : Argument}
      (split : arguments = before ++ shadowed :: after)
      (later : ∃ argument ∈ after, argument.name = shadowed.name) :
      Rearranges arguments (before ++ after)

section Rearrangements

variable {arguments others : List Argument} {name member : String}
  {value? : Option String} {bound : Bound}

theorem gives_filter :
    Gives (arguments.filter (·.name = name)) name value? ↔
      Gives arguments name value? := by
  cases value? with
  | none =>
      constructor
      · intro absent argument inside named
        exact absent argument
          (List.mem_filter.mpr ⟨inside, decide_eq_true named⟩) named
      · intro absent argument inside
        exact absent argument (List.mem_filter.mp inside).1
  | some content =>
      simp only [Gives, lastSuch_filter
        (fun _ named => decide_eq_true named)]

theorem gives_congr
    (same : others.filter (·.name = name) = arguments.filter (·.name = name)) :
    Gives others name value? ↔ Gives arguments name value? := by
  rw [← gives_filter, same, gives_filter]

theorem gives_append {before after : List Argument}
    (named : ∃ argument ∈ after, argument.name = name) :
    Gives (before ++ after) name value? ↔ Gives after name value? := by
  cases value? with
  | none =>
      obtain ⟨argument, inside, same⟩ := named
      apply iff_of_false
      · intro absent
        exact absent argument (List.mem_append_right _ inside) same
      · intro absent
        exact absent argument inside same
  | some content =>
      have last : ∀ argument,
          LastSuch (·.name = name) (before ++ after) argument ↔
            LastSuch (·.name = name) after argument :=
        fun _ => lastSuch_append named
      simp only [Gives, last]

theorem gives_of_drop {before after : List Argument} {shadowed : Argument}
    (later : ∃ argument ∈ after, argument.name = shadowed.name) :
    Gives (before ++ after) name value? ↔
      Gives (before ++ shadowed :: after) name value? := by
  by_cases named : shadowed.name = name
  · subst named
    rw [List.append_cons, gives_append later, gives_append later]
  · apply gives_congr
    simp [named]

theorem Rearranges.gives (rearranges : Rearranges arguments others) :
    Gives others name value? ↔ Gives arguments name value? := by
  cases rearranges with
  | reorder sameByName => exact gives_congr (sameByName name)
  | drop split later => rw [split, gives_of_drop later]

theorem Rearranges.subset (rearranges : Rearranges arguments others) :
    others ⊆ arguments := by
  cases rearranges with
  | reorder sameByName =>
      intro argument inside
      have kept : argument ∈ others.filter (·.name = argument.name) :=
        List.mem_filter.mpr ⟨inside, decide_eq_true rfl⟩
      rw [sameByName] at kept
      exact (List.mem_filter.mp kept).1
  | drop split later =>
      rw [split]
      intro argument inside
      rcases List.mem_append.mp inside with inBefore | inAfter
      · exact List.mem_append_left _ inBefore
      · exact List.mem_append_right _ (List.mem_cons_of_mem _ inAfter)

theorem describes_named_iff :
    Describes member (.named arguments) bound ↔
      (∀ argument ∈ arguments, argument.OfRule) ∧
      ∃ key? label? rules, Gives arguments "key" key? ∧ key? ≠ some "" ∧
        Gives arguments "label" label? ∧
        Gives arguments "rules" (some rules) ∧
        bound =
          ⟨member, key?.getD (standardKey member), label?, rules⟩ := by
  constructor
  · intro describes
    cases describes with
    | literal alone =>
        have isText := Lexeme.alone?_eq_some_iff.mpr
          (Arguments.bracketed.inj alone)
        rw [Lexeme.alone?_writtenAll] at isText
        contradiction
    | named lists allowed key notEmpty label required =>
        obtain ⟨rfl, _⟩ := Arguments.lists_named_iff.mp lists
        exact ⟨allowed, _, _, _, key, notEmpty, label, required, rfl⟩
  · rintro ⟨allowed, key?, label?, rules, key, notEmpty, label, required, rfl⟩
    have lists : (Arguments.named arguments).Lists arguments :=
      Arguments.lists_named_iff.mpr
        ⟨rfl, fun argument inside => (allowed argument inside).given⟩
    exact .named lists allowed key notEmpty label required

theorem Describes.rearranged (rearranges : Rearranges arguments others)
    (describes : Describes member (.named arguments) bound) :
    Describes member (.named others) bound := by
  rw [describes_named_iff] at describes ⊢
  obtain ⟨allowed, key?, label?, rules, key, notEmpty, label, required, made⟩ :=
    describes
  exact ⟨fun argument inside => allowed argument (rearranges.subset inside),
    key?, label?, rules, rearranges.gives.mpr key, notEmpty,
    rearranges.gives.mpr label, rearranges.gives.mpr required, made⟩

theorem bound_of_rearranges
    (related : Relation.ReflTransGen Rearranges arguments others)
    (read : boundOfArguments member (.named arguments) = .ok bound) :
    boundOfArguments member (.named others) = .ok bound := by
  induction related with
  | refl => exact read
  | tail _ rearranges induction =>
      rw [boundOfArguments_eq_ok_iff] at induction ⊢
      exact induction.rearranged rearranges

end Rearrangements

section Success

variable {arguments : List Argument} {member name : String}

theorem exists_gives (allowed : ∀ argument ∈ arguments, argument.OfRule)
    (name : String) : ∃ value?, Gives arguments name value? := by
  rcases exists_lastSuch_or_none (·.name = name) arguments with
    ⟨argument, last⟩ | absent
  · obtain ⟨content, given⟩ := (allowed argument last.mem).given
    exact ⟨some content, argument, last, given⟩
  · exact ⟨none, absent⟩

theorem exists_bound_iff :
    (∃ bound, boundOfArguments member (.named arguments) = .ok bound) ↔
      (∀ argument ∈ arguments, argument.OfRule) ∧
      (∃ argument ∈ arguments, argument.name = "rules") ∧
      ∀ argument, LastSuch (·.name = "key") arguments argument →
        argument.value ≠ .text "" := by
  simp only [boundOfArguments_eq_ok_iff, describes_named_iff]
  constructor
  · intro described
    obtain ⟨_, allowed, key?, _, _, key, notEmpty, _, required, _⟩ := described
    obtain ⟨argument, last, _⟩ := required
    refine ⟨allowed, ⟨argument, last.mem, last.has⟩, ?_⟩
    intro keyArgument keyLast empty
    cases key? with
    | none => exact key keyArgument keyLast.mem keyLast.has
    | some content =>
        obtain ⟨other, otherLast, given⟩ := key
        rw [otherLast.unique keyLast, empty] at given
        cases given
        exact notEmpty rfl
  · intro conditions
    obtain ⟨allowed, ⟨argument, inside, named⟩, notEmpty⟩ := conditions
    obtain ⟨key?, key⟩ := exists_gives allowed "key"
    obtain ⟨label?, label⟩ := exists_gives allowed "label"
    obtain ⟨rules?, required⟩ := exists_gives allowed "rules"
    cases rules? with
    | none => exact absurd named (required argument inside)
    | some rules =>
        refine ⟨_, allowed, key?, label?, rules, key, ?_, label, required, rfl⟩
        rintro rfl
        obtain ⟨keyArgument, last, given⟩ := key
        exact notEmpty keyArgument last given

/-- Without a key the identifier is the key, and its mark of raw form is left
out. -/
theorem standardKey_of_identifier (isIdentifier : IsIdentifier name) :
    standardKey name = name ∧ standardKey ("r#" ++ name) = name := by
  obtain ⟨first, rest, spelled, _, continues⟩ := isIdentifier
  have plain : standardKey name = name := by
    rw [standardKey, spelled, withoutRawMark_of_identifier continues,
      ← spelled, String.ofList_toList]
  have raw : ("r#" ++ name).toList = 'r' :: '#' :: name.toList := by
    rw [String.toList_append]
    rfl
  refine ⟨plain, ?_⟩
  rw [standardKey, raw, withoutRawMark]
  exact plain

end Success

/-- The arguments of a `rule` attribute bind a field when they are known and
have texts, rules are among them and the last key is not empty.  What they bind
is what the last one of each name says, so a rearrangement binds the same; the
standard key is the identifier without the mark of raw form, and the short form
stands for a single argument. -/
theorem bound_of_arguments (member : String) :
    (∀ arguments,
      ((∃ bound, boundOfArguments member (.named arguments) = .ok bound) ↔
        (∀ argument ∈ arguments, argument.OfRule) ∧
        (∃ argument ∈ arguments, argument.name = "rules") ∧
        ∀ argument, LastSuch (·.name = "key") arguments argument →
          argument.value ≠ .text "") ∧
      (∀ bound, boundOfArguments member (.named arguments) = .ok bound ↔
        Describes member (.named arguments) bound) ∧
      ∀ others, Relation.ReflTransGen Rearranges arguments others →
        ∀ bound, boundOfArguments member (.named arguments) = .ok bound →
          boundOfArguments member (.named others) = .ok bound) ∧
    (∀ name, IsIdentifier name → member = name ∨ member = "r#" ++ name →
      standardKey member = name) ∧
    (∀ rules,
      boundOfArguments member (.literal rules) =
        .ok ⟨member, standardKey member, none, rules⟩ ∧
      boundOfArguments member (.literal rules) =
        boundOfArguments member (.named [⟨"rules", .text rules⟩])) := by
  refine ⟨?_, ?_, fun _ => ⟨rfl, rfl⟩⟩
  · intro arguments
    exact ⟨exists_bound_iff, fun _ => boundOfArguments_eq_ok_iff,
      fun _ related _ => bound_of_rearranges related⟩
  · intro name isIdentifier spelled
    obtain ⟨plain, raw⟩ := standardKey_of_identifier isIdentifier
    rcases spelled with rfl | rfl
    · exact plain
    · exact raw

/-- An empty key that another one follows does no harm and may be left out, and
the label may come last; it stays a label although it is empty. -/
theorem bound_of_arguments_empty_key :
    let arguments : List Argument :=
      [⟨"key", .text ""⟩, ⟨"label", .text ""⟩, ⟨"key", .text "kind"⟩,
        ⟨"rules", .text "required"⟩]
    let others : List Argument :=
      [⟨"key", .text "kind"⟩, ⟨"rules", .text "required"⟩, ⟨"label", .text ""⟩]
    let bound : Bound := ⟨"r#type", "kind", some "", "required"⟩
    boundOfArguments "r#type" (.named arguments) = .ok bound ∧
      boundOfArguments "r#type" (.named others) = .ok bound ∧
      standardKey "r#type" = "type" := by
  intro arguments others bound
  obtain ⟨named, identifier, _⟩ := bound_of_arguments "r#type"
  have read : boundOfArguments "r#type" (.named arguments) = .ok bound := by
    decide
  have dropped : Rearranges arguments (arguments.drop 1) :=
    .drop (show arguments = [] ++ _ :: arguments.drop 1 from rfl) (by decide)
  have reordered : Rearranges (arguments.drop 1) others := by
    refine .reorder ?_
    intro name
    by_cases label : "label" = name
    · subst label
      rfl
    · simp [arguments, others, List.filter_cons, label]
  refine ⟨read, ?_, ?_⟩
  · exact (named arguments).2.2 others
      (.tail (.single dropped) reordered) bound read
  · exact identifier "type" ⟨'t', "ype".toList, by decide, by decide +kernel,
      List.all_eq_true.mp (by decide +kernel)⟩ (.inr rfl)

end FieldCheck.Binding
