import FieldCheck.Binding
import FieldCheck.Proofs.ArgumentListing
import FieldCheck.Proofs.LastSuch

/-!
# Arguments of `rule` attributes

A `rule` attribute says under which key a field is bound, with which label and
with which rules.  A single text gives the rules alone.  Among named arguments
the last one of a name counts, rules are required, and a key that is given in
the end is not empty.
-/

namespace FieldCheck.Binding

/-- What arguments give for a name: the text of the last one with that name,
or nothing when there is none. -/
def Gives (arguments : List Argument) (name : String) : Option String → Prop
  | none => ∀ argument ∈ arguments, argument.name ≠ name
  | some content => ∃ argument, LastSuch (·.name = name) arguments argument ∧
      argument.value = .text content

/-- An argument that may stand in a `rule` attribute. -/
structure Argument.OfRule (argument : Argument) : Prop where
  named : argument.name ∈ ["key", "label", "rules"]
  given : ∃ content, argument.value = .text content

/-- What the arguments of a `rule` attribute on a field bind. -/
inductive Describes (member : String) (given : Arguments) : Bound → Prop where
  | literal {rules : String} (alone : given = .literal rules) :
      Describes member given ⟨member, standardKey member, none, rules⟩
  | named {arguments : List Argument} {key? label? : Option String}
      {rules : String} (lists : given.Lists arguments)
      (allowed : ∀ argument ∈ arguments, argument.OfRule)
      (key : Gives arguments "key" key?) (notEmpty : key? ≠ some "")
      (label : Gives arguments "label" label?)
      (required : Gives arguments "rules" (some rules)) :
      Describes member given
        ⟨member, key?.getD (standardKey member), label?, rules⟩

theorem Argument.OfRule.isPlain {argument : Argument}
    (allowed : argument.OfRule) : argument.IsPlain := by
  refine ⟨?_, allowed.given⟩
  have single : ∀ name ∈ ["key", "label", "rules"], ':' ∉ name.toList := by
    decide
  exact single _ allowed.named

theorem content_eq_ok_iff {value : ArgumentValue} {content : String} :
    value.content = .ok content ↔ value = .text content := by
  cases value <;> simp [ArgumentValue.content]

def ArgumentValue.content? : ArgumentValue → Option String
  | .text content => some content
  | .number | .ended | .missing => none

def RuleDraft.set (draft : RuleDraft) (argument : Argument) : RuleDraft :=
  if argument.name = "key" then
    { draft with key? := argument.value.content? }
  else if argument.name = "label" then
    { draft with label? := argument.value.content? }
  else if argument.name = "rules" then
    { draft with rules? := argument.value.content? }
  else draft

section Drafts

variable {draft next : RuleDraft} {argument : Argument}
  {arguments : List Argument} {member : String} {bound : Bound}

theorem RuleDraft.add_eq_ok_iff :
    draft.add argument = .ok next ↔
      argument.OfRule ∧ next = draft.set argument := by
  obtain ⟨name, value⟩ := argument
  constructor
  · intro added
    cases value with
    | number | ended | missing =>
        unfold RuleDraft.add at added
        split_ifs at added <;> contradiction
    | text content =>
        refine ⟨⟨?_, content, rfl⟩, ?_⟩
        · by_contra unknown
          simp_all [RuleDraft.add]
        · unfold RuleDraft.add at added
          unfold RuleDraft.set
          split_ifs at added ⊢
          · cases added; rfl
          · cases added; rfl
          · cases added; rfl
  · intro described
    obtain ⟨⟨named, content, rfl⟩, rfl⟩ := described
    unfold RuleDraft.add RuleDraft.set
    split_ifs with key label rules
    · rfl
    · rfl
    · rfl
    · simp [key, label, rules] at named

theorem RuleDraft.addAll_eq_ok_iff :
    draft.addAll arguments = .ok next ↔
      (∀ argument ∈ arguments, argument.OfRule) ∧
        next = arguments.foldl RuleDraft.set draft := by
  induction arguments generalizing draft with
  | nil => simp [RuleDraft.addAll, eq_comm]
  | cons argument rest induction =>
      rw [List.forall_mem_cons, List.foldl_cons, RuleDraft.addAll]
      cases added : draft.add argument with
      | error fault =>
          simp only [reduceCtorEq, false_iff, not_and]
          intro allowed
          have read : draft.add argument = .ok (draft.set argument) :=
            RuleDraft.add_eq_ok_iff.mpr ⟨allowed.1, rfl⟩
          rw [added] at read
          contradiction
      | ok changed =>
          obtain ⟨allowed, rfl⟩ := RuleDraft.add_eq_ok_iff.mp added
          simp only [induction, allowed, true_and]

/-- What a draft has for a name is what the arguments give for it. -/
theorem view_eq_iff_gives (view : RuleDraft → Option String) {name : String}
    {value? : Option String}
    (kept : ∀ (draft : RuleDraft) (argument : Argument),
      ¬ argument.name = name → view (draft.set argument) = view draft)
    (written : ∀ (draft : RuleDraft) (argument : Argument),
      argument.name = name →
        view (draft.set argument) = argument.value.content?)
    (allowed : ∀ argument ∈ arguments, argument.OfRule)
    (unset : view draft = none) :
    view (arguments.foldl RuleDraft.set draft) = value? ↔
      Gives arguments name value? := by
  rw [view_foldl_eq_iff view kept written, unset]
  cases value? with
  | none =>
      constructor
      · intro shown
        rcases shown with ⟨argument, last, empty⟩ | ⟨absent, _⟩
        · obtain ⟨content, given⟩ := (allowed argument last.mem).given
          simp [given, ArgumentValue.content?] at empty
        · exact absent
      · exact fun absent => .inr ⟨absent, rfl⟩
  | some content =>
      constructor
      · intro shown
        rcases shown with ⟨argument, last, text⟩ | ⟨_, empty⟩
        · obtain ⟨other, given⟩ := (allowed argument last.mem).given
          rw [given] at text
          exact ⟨argument, last, given.trans (congrArg _ (Option.some.inj text))⟩
        · contradiction
      · intro gives
        obtain ⟨argument, last, given⟩ := gives
        exact .inl ⟨argument, last, by rw [given]; rfl⟩

theorem key?_eq_iff_gives {key? : Option String}
    (allowed : ∀ argument ∈ arguments, argument.OfRule) :
    (arguments.foldl RuleDraft.set ⟨none, none, none⟩).key? = key? ↔
      Gives arguments "key" key? := by
  refine view_eq_iff_gives RuleDraft.key? ?_ ?_ allowed rfl
  · intro draft argument other
    unfold RuleDraft.set
    split_ifs <;> rfl
  · intro draft argument named
    rw [RuleDraft.set, if_pos named]

theorem label?_eq_iff_gives {label? : Option String}
    (allowed : ∀ argument ∈ arguments, argument.OfRule) :
    (arguments.foldl RuleDraft.set ⟨none, none, none⟩).label? = label? ↔
      Gives arguments "label" label? := by
  refine view_eq_iff_gives RuleDraft.label? ?_ ?_ allowed rfl
  · intro draft argument other
    unfold RuleDraft.set
    split_ifs <;> rfl
  · intro draft argument named
    simp [RuleDraft.set, named]

theorem rules?_eq_iff_gives {rules? : Option String}
    (allowed : ∀ argument ∈ arguments, argument.OfRule) :
    (arguments.foldl RuleDraft.set ⟨none, none, none⟩).rules? = rules? ↔
      Gives arguments "rules" rules? := by
  refine view_eq_iff_gives RuleDraft.rules? ?_ ?_ allowed rfl
  · intro draft argument other
    unfold RuleDraft.set
    split_ifs <;> rfl
  · intro draft argument named
    simp [RuleDraft.set, named]

theorem RuleDraft.bound_eq_ok_iff :
    draft.bound member = .ok bound ↔
      draft.key? ≠ some "" ∧ ∃ rules, draft.rules? = some rules ∧
        bound = ⟨member, draft.key?.getD (standardKey member), draft.label?,
          rules⟩ := by
  unfold RuleDraft.bound
  cases draft.rules? with
  | none => simp
  | some rules =>
      by_cases empty : draft.key? = some "" <;> simp [empty, eq_comm]

end Drafts

theorem Listing.read_eq_ok_iff {α : Type} {listing : Listing}
    {readAll : List Argument → Except Fault α} {value : α} :
    listing.read readAll = .ok value ↔
      readAll listing.arguments = .ok value ∧ listing.flaw? = none := by
  unfold Listing.read
  cases readAll listing.arguments <;> cases listing.flaw? <;> simp

section Bounds

variable {member : String} {given : Arguments} {arguments : List Argument}
  {lexemes : List Lexeme} {draft : RuleDraft} {bound : Bound}

theorem read_addAll_eq_ok_iff :
    (Lexeme.listing lexemes).read (RuleDraft.addAll ⟨none, none, none⟩) =
        .ok draft ↔
      ∃ arguments, Lexeme.Lists lexemes arguments ∧
        (∀ argument ∈ arguments, argument.OfRule) ∧
        draft = arguments.foldl RuleDraft.set ⟨none, none, none⟩ := by
  rw [Listing.read_eq_ok_iff, RuleDraft.addAll_eq_ok_iff]
  constructor
  · rintro ⟨⟨allowed, rfl⟩, flawless⟩
    have lists := Lexeme.lists_listing
      (fun argument inside => (allowed argument inside).isPlain) flawless
    exact ⟨_, lists, allowed, rfl⟩
  · rintro ⟨arguments, lists, allowed, rfl⟩
    rw [Lexeme.listing_of_lists lists]
    exact ⟨⟨allowed, rfl⟩, rfl⟩

/-- What the arguments of a `rule` attribute are read to is what they bind. -/
theorem boundOfArguments_eq_ok_iff :
    boundOfArguments member given = .ok bound ↔
      Describes member given bound := by
  constructor
  · intro read
    cases given with
    | none | assigned => contradiction
    | bracketed lexemes =>
        rw [boundOfArguments] at read
        cases alone : Lexeme.alone? lexemes with
        | some rules =>
            rw [alone] at read
            cases read
            rw [Lexeme.alone?_eq_some_iff] at alone
            exact .literal (congrArg Arguments.bracketed alone)
        | none =>
            simp only [alone] at read
            cases added : (Lexeme.listing lexemes).read
                (RuleDraft.addAll ⟨none, none, none⟩) with
            | error fault => simp [added] at read
            | ok draft =>
                simp only [added] at read
                obtain ⟨arguments, lists, allowed, rfl⟩ :=
                  read_addAll_eq_ok_iff.mp added
                obtain ⟨notEmpty, rules, required, rfl⟩ :=
                  RuleDraft.bound_eq_ok_iff.mp read
                exact .named ⟨lexemes, rfl, lists⟩ allowed
                  ((key?_eq_iff_gives allowed).mp rfl) notEmpty
                  ((label?_eq_iff_gives allowed).mp rfl)
                  ((rules?_eq_iff_gives allowed).mp required)
  · intro describes
    cases describes with
    | literal alone =>
        rw [alone]
        rfl
    | named lists allowed key notEmpty label required =>
        obtain ⟨lexemes, rfl, lists⟩ := lists
        rw [← key?_eq_iff_gives allowed] at key
        rw [← label?_eq_iff_gives allowed] at label
        rw [← rules?_eq_iff_gives allowed] at required
        have added := read_addAll_eq_ok_iff.mpr ⟨_, lists, allowed, rfl⟩
        simp only [boundOfArguments, Lexeme.alone?_of_lists lists, added]
        rw [RuleDraft.bound_eq_ok_iff, key, label]
        exact ⟨notEmpty, _, required, rfl⟩

end Bounds

end FieldCheck.Binding
