import InterfaceMocks.Proofs.Grammar.Shapes

/-!
Answers taken apart. `Given` says that an expression of the grammar was read somewhere and gave these
trees; unlike a derivation it remembers that the alternatives before the one chosen did not match. What
is given by an expression is made of what is given by its parts.
-/

namespace InterfaceMocks.Grammar

open InterfaceMocks.Syntax

/-! What is read. -/

/-- Whether a shape takes a token whole, wherever it stands. -/
def Shape.isExact : Shape → Bool
  | sameLine _ | opening _ => false
  | _ => true

inductive Repeats (body : Form) (setting : Setting) :
    Cursor → List (List Tree) → Cursor → Prop where
  | stop {cursor} (none : reading rules body setting cursor = .mismatch) :
      Repeats body setting cursor [] cursor
  | more {cursor middle rest part parts}
      (once : reading rules body setting cursor = .done part middle)
      (again : Repeats body setting middle parts rest) :
      Repeats body setting cursor (part :: parts) rest

/-- The answers to a step that takes up what was read before it, each time. -/
inductive Grows (step : Form) (follows ends : Bool) :
    List Tree → Cursor → List Tree → Cursor → Prop where
  | stop {held cursor}
      (none : reading rules step ⟨follows, ends, held⟩ cursor = .mismatch) :
      Grows step follows ends held cursor held cursor
  | more {held cursor next middle trees rest}
      (once : reading rules step ⟨follows, ends, held⟩ cursor = .done next middle)
      (again : Grows step follows ends next middle trees rest) :
      Grows step follows ends held cursor trees rest

section Reading

variable {setting : Setting} {cursor rest : Cursor} {trees : List Tree} {first second body : Form}

theorem reading_derived {g : Form} (found : reading rules g setting cursor = .done trees rest)
    (lexed : ∀ token ∈ cursor.tokens, Lexed token) :
    Derives rules setting.held g trees ∧ ∀ token ∈ rest.tokens, Lexed token :=
  (reads_iff.2 found).derives lexed

theorem reading_seq_done :
    reading rules (.seq first second) setting cursor = .done trees rest ↔
      ∃ before middle after,
        reading rules first { setting with follows := second.terminatorBefore setting.follows }
            cursor = .done before middle
          ∧ reading rules second setting middle = .done after rest ∧ trees = before ++ after := by
  rw [reading_seq, Reply.andThen_eq_done]
  simp only [Reply.after_eq_done]
  constructor
  · rintro ⟨before, middle, one, after, two, same⟩
    exact ⟨before, middle, after, one, two, same⟩
  · rintro ⟨before, middle, after, one, two, same⟩
    exact ⟨before, middle, one, after, two, same⟩

theorem reading_alt_done :
    reading rules (.alt first second) setting cursor = .done trees rest ↔
      reading rules first setting cursor = .done trees rest
        ∨ reading rules first setting cursor = .mismatch
          ∧ reading rules second setting cursor = .done trees rest := by
  rw [reading_alt, Reply.orElse_eq_done]

theorem reading_many_done :
    reading rules (.many body) setting cursor = .done trees rest ↔
      (∃ before middle after,
        reading rules body
            { setting with follows := (Gram.many body).terminatorBefore setting.follows }
            cursor = .done before middle
          ∧ reading rules (.many body) setting middle = .done after rest ∧ trees = before ++ after)
        ∨ reading rules body
            { setting with follows := (Gram.many body).terminatorBefore setting.follows }
            cursor = .mismatch ∧ trees = [] ∧ rest = cursor := by
  rw [reading_many, Reply.branch_eq_done]
  simp only [Reply.after_eq_done, Reply.done.injEq]
  constructor
  · rintro (⟨before, middle, one, after, two, same⟩ | ⟨none, same, stays⟩)
    · exact .inl ⟨before, middle, after, one, two, same⟩
    · exact .inr ⟨none, same.symm, stays.symm⟩
  · rintro (⟨before, middle, after, one, two, same⟩ | ⟨none, same, stays⟩)
    · exact .inl ⟨before, middle, one, after, two, same⟩
    · exact .inr ⟨none, same.symm, stays.symm⟩

theorem reading_node_done {kind : Kind} :
    reading rules (.node kind body) setting cursor = .done trees rest ↔
      ∃ children, reading rules body setting cursor = .done children rest
        ∧ trees = [.node kind .plain children] := by
  rw [reading_node, Reply.map_eq_done]

theorem reading_as_done {role : Role} :
    reading rules (.as role body) setting cursor = .done trees rest ↔
      ∃ inner, reading rules body setting cursor = .done inner rest
        ∧ trees = inner.map (Tree.withRole role) := by
  rw [reading_as, Reply.map_eq_done]

theorem reading_absent_done :
    reading rules (.absent body) setting cursor = .done trees rest ↔
      reading rules body setting cursor = .mismatch ∧ trees = [] ∧ rest = cursor := by
  rw [reading_absent, Reply.branch_eq_done]
  simp [eq_comm]

theorem reading_choice_done {forms : List Form} (some : forms ≠ [])
    (found : reading rules (.choice forms) setting cursor = .done trees rest) :
    ∃ g ∈ forms, reading rules g setting cursor = .done trees rest := by
  induction forms with
  | nil => simp at some
  | cons first others ih =>
      cases others with
      | nil => exact ⟨first, by simp, found⟩
      | cons second others =>
          rcases reading_alt_done.1 found with one | ⟨-, more⟩
          · exact ⟨first, by simp, one⟩
          · obtain ⟨g, among, this⟩ := ih (by simp) more
            exact ⟨g, List.mem_cons_of_mem _ among, this⟩

/-- A leaf that takes its token whole takes the first one. -/
theorem reading_leaf_done {kind : Kind} {shape : Shape} (exact : shape.isExact = true)
    (found : reading rules (.leaf kind shape) setting cursor = .done trees rest) :
    ∃ token tail, cursor = ⟨token :: tail, false⟩ ∧ shape.Admits token
      ∧ trees = [.leaf kind .plain token] ∧ rest = Cursor.after tail setting.follows := by
  rw [reading_leaf] at found
  obtain ⟨whole, first, tail, taken, rfl, rfl⟩ := leaf_eq_done.1 found
  obtain ⟨tokens, broken⟩ := cursor
  obtain rfl : broken = false := whole
  cases takes_of_take taken with
  | whole admits => exact ⟨first, tail, rfl, admits, rfl, rfl⟩
  | front => simp [Shape.isExact] at exact

theorem reading_many_repeats (found : reading rules (.many body) setting cursor = .done trees rest) :
    ∃ parts : List (List Tree), trees = parts.flatten
      ∧ Repeats body { setting with follows := (Gram.many body).terminatorBefore setting.follows }
          cursor parts rest := by
  have reads := reads_iff.2 found
  clear found
  generalize same : Gram.many body = g at reads
  induction reads with
  | stop none =>
      obtain rfl := Gram.many.inj same
      exact ⟨[], rfl, .stop none⟩
  | more once _ _ again =>
      obtain rfl := Gram.many.inj same
      obtain ⟨parts, rfl, repeats⟩ := again rfl
      exact ⟨_ :: parts, rfl, .more once.reading repeats⟩
  | _ => cases same

theorem reading_grow_grows (found : reading rules (.grow body) setting cursor = .done trees rest) :
    Grows body ((Gram.grow body).terminatorBefore setting.follows) setting.ends setting.held cursor
      trees rest := by
  have reads := reads_iff.2 found
  clear found
  generalize same : Gram.grow body = g at reads
  induction reads with
  | grown none =>
      obtain rfl := Gram.grow.inj same
      exact .stop none
  | grow once _ _ again =>
      obtain rfl := Gram.grow.inj same
      exact .more once.reading (again rfl)
  | _ => cases same

end Reading

/-- What an expression gave where it was read, with these trees held for it. -/
def Given (held : List Tree) (g : Form) (trees : List Tree) : Prop :=
  ∃ setting cursor rest, setting.held = held ∧ (∀ token ∈ cursor.tokens, Lexed token)
    ∧ reading rules g setting cursor = .done trees rest

section Given

variable {held trees : List Tree} {first second body : Form}

theorem Given.derives {g : Form} (given : Given held g trees) : Derives rules held g trees := by
  obtain ⟨setting, cursor, rest, rfl, lexed, found⟩ := given
  exact (reading_derived found lexed).1

theorem given_seq (given : Given held (.seq first second) trees) :
    ∃ before after, Given held first before ∧ Given held second after
      ∧ trees = before ++ after := by
  obtain ⟨setting, cursor, rest, rfl, lexed, found⟩ := given
  obtain ⟨before, middle, after, one, two, rfl⟩ := reading_seq_done.1 found
  exact ⟨before, after,
    ⟨{ setting with follows := second.terminatorBefore setting.follows }, cursor, middle, rfl,
      lexed, one⟩,
    ⟨setting, middle, rest, rfl, (reading_derived one lexed).2, two⟩, rfl⟩

theorem given_alt (given : Given held (.alt first second) trees) :
    Given held first trees ∨ Given held second trees := by
  obtain ⟨setting, cursor, rest, rfl, lexed, found⟩ := given
  rcases reading_alt_done.1 found with one | ⟨-, two⟩
  · exact .inl ⟨setting, cursor, rest, rfl, lexed, one⟩
  · exact .inr ⟨setting, cursor, rest, rfl, lexed, two⟩

theorem given_node {kind : Kind} (given : Given held (.node kind body) trees) :
    ∃ children, Given held body children ∧ trees = [.node kind .plain children] := by
  obtain ⟨setting, cursor, rest, rfl, lexed, found⟩ := given
  obtain ⟨children, inside, rfl⟩ := reading_node_done.1 found
  exact ⟨children, ⟨setting, cursor, rest, rfl, lexed, inside⟩, rfl⟩

theorem given_as {role : Role} (given : Given held (.as role body) trees) :
    ∃ inner, Given held body inner ∧ trees = inner.map (Tree.withRole role) := by
  obtain ⟨setting, cursor, rest, rfl, lexed, found⟩ := given
  obtain ⟨inner, inside, rfl⟩ := reading_as_done.1 found
  exact ⟨inner, ⟨setting, cursor, rest, rfl, lexed, inside⟩, rfl⟩

theorem given_rule {name : Rule} (given : Given held (.rule name) trees) :
    Given [] (rules name) trees := by
  obtain ⟨setting, cursor, rest, rfl, lexed, found⟩ := given
  rw [reading_rule] at found
  exact ⟨_, cursor, rest, rfl, lexed, found⟩

theorem given_leaf {kind : Kind} {shape : Shape} (given : Given held (.leaf kind shape) trees) :
    ∃ token, shape.Admits token ∧ Lexed token ∧ trees = [.leaf kind .plain token] :=
  derives_leaf.1 given.derives

theorem given_terminator (given : Given held .terminator trees) :
    trees = [] ∨ ∃ token, Cursor.isTerminator token = true ∧ trees = [.leaf .mark .plain token] := by
  obtain ⟨setting, cursor, rest, rfl, lexed, found⟩ := given
  rw [reading_terminator] at found
  obtain ⟨-, rfl, -⟩ | ⟨-, token, tokens, -, ends, rfl, -⟩ := terminator_eq_done.1 found
  · exact .inl rfl
  · exact .inr ⟨token, ends, rfl⟩

theorem given_hold (given : Given held (.hold first second) trees) :
    ∃ subject, Given held first subject ∧ Given subject second trees := by
  obtain ⟨setting, cursor, rest, rfl, lexed, found⟩ := given
  rw [reading_hold, Reply.andThen_eq_done] at found
  obtain ⟨subject, middle, one, two⟩ := found
  exact ⟨subject,
    ⟨{ setting with follows := second.terminatorBefore setting.follows }, cursor, middle, rfl,
      lexed, one⟩,
    ⟨{ setting with held := subject }, middle, rest, rfl, (reading_derived one lexed).2, two⟩⟩

theorem given_held (given : Given held .held trees) : trees = held := by
  obtain ⟨setting, cursor, rest, rfl, lexed, found⟩ := given
  rw [reading_held] at found
  exact (Reply.done.inj found).1.symm

theorem given_many (given : Given held (.many body) trees) :
    ∃ parts : List (List Tree), trees = parts.flatten ∧ ∀ part ∈ parts, Given held body part := by
  obtain ⟨setting, cursor, rest, rfl, lexed, found⟩ := given
  obtain ⟨parts, rfl, repeats⟩ := reading_many_repeats found
  clear found
  refine ⟨parts, rfl, ?_⟩
  induction repeats with
  | stop => simp
  | @more cursor middle rest part parts once again ih =>
      have here : Given setting.held body part :=
        ⟨{ setting with follows := (Gram.many body).terminatorBefore setting.follows }, cursor,
          middle, rfl, lexed, once⟩
      simpa using ⟨here, ih (reading_derived once lexed).2⟩

theorem given_choice {forms : List Form} (some : forms ≠ [])
    (given : Given held (.choice forms) trees) : ∃ g ∈ forms, Given held g trees := by
  induction forms with
  | nil => simp at some
  | cons first others ih =>
      cases others with
      | nil => exact ⟨first, by simp, given⟩
      | cons second others =>
          rcases given_alt given with one | more
          · exact ⟨first, by simp, one⟩
          · obtain ⟨g, among, this⟩ := ih (by simp) more
            exact ⟨g, List.mem_cons_of_mem _ among, this⟩

theorem given_optional (given : Given held (.optional body) trees) :
    Given held body trees ∨ trees = [] :=
  (given_alt given).imp_right fun none => derives_empty.1 none.derives

theorem given_three {third : Form} (given : Given held (.sequence [first, second, third]) trees) :
    ∃ ones twos threes, Given held first ones ∧ Given held second twos ∧ Given held third threes
      ∧ trees = ones ++ (twos ++ threes) := by
  obtain ⟨ones, others, one, rest, rfl⟩ := given_seq given
  obtain ⟨twos, threes, two, three, rfl⟩ := given_seq rest
  exact ⟨ones, twos, threes, one, two, three, rfl⟩

theorem given_four {third fourth : Form}
    (given : Given held (.sequence [first, second, third, fourth]) trees) :
    ∃ ones twos threes fours, Given held first ones ∧ Given held second twos
      ∧ Given held third threes ∧ Given held fourth fours
      ∧ trees = ones ++ (twos ++ (threes ++ fours)) := by
  obtain ⟨ones, others, one, rest, rfl⟩ := given_seq given
  obtain ⟨twos, threes, fours, two, three, four, rfl⟩ := given_three rest
  exact ⟨ones, twos, threes, fours, one, two, three, four, rfl⟩

theorem given_five {third fourth fifth : Form}
    (given : Given held (.sequence [first, second, third, fourth, fifth]) trees) :
    ∃ ones twos threes fours fives, Given held first ones ∧ Given held second twos
      ∧ Given held third threes ∧ Given held fourth fours ∧ Given held fifth fives
      ∧ trees = ones ++ (twos ++ (threes ++ (fours ++ fives))) := by
  obtain ⟨ones, others, one, rest, rfl⟩ := given_seq given
  obtain ⟨twos, threes, fours, fives, two, three, four, five, rfl⟩ := given_four rest
  exact ⟨ones, twos, threes, fours, fives, one, two, three, four, five, rfl⟩

/-- Whether an expression gives one tree, and none of these kinds. -/
def Gram.avoids (kinds : List Kind) : Form → Bool
  | .leaf kind _ | .node kind _ => !kinds.contains kind
  | .as _ body => body.avoids kinds
  | .seq first second =>
      first.isQuiet && second.avoids kinds || first.avoids kinds && second.isQuiet
  | .alt first second => first.avoids kinds && second.avoids kinds
  | .hold _ rest => rest.avoids kinds
  | _ => false

theorem given_avoids {kinds : List Kind} {g : Form} (avoids : g.avoids kinds = true)
    (given : Given held g trees) : ∃ tree, trees = [tree] ∧ tree.kind ∉ kinds := by
  have derives := given.derives
  clear given
  induction derives with
  | leaf => exact ⟨_, rfl, by simpa [Gram.avoids, Tree.kind] using avoids⟩
  | node => exact ⟨_, rfl, by simpa [Gram.avoids, Tree.kind] using avoids⟩
  | left _ ih => exact ih (by simp_all [Gram.avoids])
  | right _ ih => exact ih (by simp_all [Gram.avoids])
  | as _ ih =>
      obtain ⟨tree, rfl, other⟩ := ih avoids
      exact ⟨_, rfl, by cases tree <;> exact other⟩
  | hold _ _ _ ih => exact ih avoids
  | seq before after ih ih' =>
      simp only [Gram.avoids, Bool.or_eq_true, Bool.and_eq_true] at avoids
      rcases avoids with ⟨quiet, avoids⟩ | ⟨avoids, quiet⟩
      · rw [before.quiet quiet, List.nil_append]
        exact ih' avoids
      · rw [after.quiet quiet, List.append_nil]
        exact ih avoids
  | _ => simp [Gram.avoids] at avoids

/-! Tokens. -/

theorem given_mark {kind : Kind} {text : String} (given : Given held (.leaf kind (.mark text)) trees) :
    ∃ lead, trees = [.leaf kind .plain ⟨lead, .mark, text⟩] := by
  obtain ⟨⟨lead, lexeme, text⟩, ⟨rfl, rfl⟩, -, rfl⟩ := given_leaf given
  exact ⟨lead, rfl⟩

theorem given_punct {text : String} (given : Given held (.punct text) trees) :
    ∃ lead, trees = [.leaf .mark .plain ⟨lead, .mark, text⟩] := given_mark given

theorem given_keyword {kind : Kind} {text : String}
    (given : Given held (.leaf kind (.keyword text)) trees) :
    ∃ lead, trees = [.leaf kind .plain ⟨lead, .word, text⟩] := by
  obtain ⟨⟨lead, lexeme, text⟩, ⟨rfl, rfl⟩, -, rfl⟩ := given_leaf given
  exact ⟨lead, rfl⟩

theorem given_name {kind : Kind} {reserved : List String}
    (given : Given held (.leaf kind (.name reserved)) trees) :
    ∃ lead text, trees = [.leaf kind .plain ⟨lead, .word, text⟩]
      ∧ Text.Identifier.isIdentifier text = true ∧ text ∉ reserved := by
  obtain ⟨⟨lead, lexeme, text⟩, ⟨rfl, free⟩, lexed, rfl⟩ := given_leaf given
  exact ⟨lead, text, rfl, lexed rfl, free⟩

theorem given_literal {kind : Kind} {lexeme : Lexeme}
    (given : Given held (.leaf kind (.literal lexeme)) trees) :
    ∃ lead text, trees = [.leaf kind .plain ⟨lead, lexeme, text⟩] := by
  obtain ⟨⟨lead, lexeme, text⟩, rfl, -, rfl⟩ := given_leaf given
  exact ⟨lead, text, rfl⟩

end Given

end InterfaceMocks.Grammar
