import InterfaceMocks.Proofs.Grammar.Depth

/-!
What an expression can start with. `takes g` over-approximates whether `g` can read the token at
hand, and `skips g` whether it can succeed without reading; an expression that can do neither does
not match. No rule starts with a comma, a colon or a closing bracket, nor where the tokens or the
line have ended.
-/

namespace InterfaceMocks.Grammar

open InterfaceMocks.Syntax

/-- What is known of the next token: which shapes take it, which rules may start with it, and whether
it may be a terminator. -/
structure Outlook (Rule : Type) where
  shape : Shape → Bool
  rule : Rule → Bool
  terminator : Bool

namespace Gram

variable {Rule : Type}

/-- Whether the expression may succeed without reading. -/
def skips (next : Outlook Rule) : Gram Rule → Bool
  | empty | held | joined | many _ | grow _ | ahead _ | absent _ => true
  | leaf _ _ | rule _ => false
  | terminator => next.terminator
  | seq first second | hold first second => first.skips next && second.skips next
  | alt first second => first.skips next || second.skips next
  | node _ body | as _ body => body.skips next

def takes (next : Outlook Rule) : Gram Rule → Bool
  | empty | held | joined | ahead _ | absent _ => false
  | leaf _ shape => next.shape shape
  | rule name => next.rule name
  | terminator => next.terminator
  | seq first second | hold first second =>
      first.takes next || (first.skips next && second.takes next)
  | alt first second => first.takes next || second.takes next
  | many body | grow body | node _ body | as _ body => body.takes next

end Gram

section Soundness

variable {Rule : Type} {rules : Rule → Gram Rule} {rank : Rule → Nat} {bound : Nat}

/-- The outlook holds at the cursor, and no rule that it rules out starts there after all. -/
structure Outlook.Sound (next : Outlook Rule) (rules : Rule → Gram Rule) (cursor : Cursor) :
    Prop where
  leaf : ∀ kind shape follows, next.shape shape = false →
    cursor.leaf kind shape follows = .mismatch
  terminator : ∀ follows, next.terminator = false → cursor.terminator follows = .mismatch
  rule : ∀ name, next.rule name = false →
    (rules name).takes next = false ∧ (rules name).skips next = false

/-- What has succeeded took the token at hand, or it read nothing. -/
theorem Reads.foreseen {next : Outlook Rule} {g : Gram Rule} {setting : Setting}
    {cursor rest : Cursor} {trees : List Tree} (reads : Reads rules g setting cursor trees rest)
    (sound : next.Sound rules cursor) :
    g.takes next = true ∨ g.skips next = true ∧ rest = cursor := by
  induction reads with
  | empty | held | stop | grown | ahead | absent | joined => exact .inr ⟨rfl, rfl⟩
  | @leaf kind shape setting _ _ _ whole taken =>
      refine .inl (Bool.of_not_eq_false fun impossible => ?_)
      have none := sound.leaf kind shape setting.follows impossible
      rw [leaf_eq_done.2 ⟨whole, _, _, taken, rfl, rfl⟩] at none
      simp at none
  | @ended setting _ finished =>
      refine .inl (Bool.of_not_eq_false fun impossible => ?_)
      have none := sound.terminator setting.follows impossible
      rw [terminator_eq_done.2 (.inl ⟨finished, rfl, rfl⟩)] at none
      simp at none
  | @terminator setting _ _ _ whole next ends =>
      refine .inl (Bool.of_not_eq_false fun impossible => ?_)
      have none := sound.terminator setting.follows impossible
      rw [terminator_eq_done.2 (.inr ⟨whole, _, _, next, ends, rfl, rfl⟩)] at none
      simp at none
  | seq _ _ early late | hold _ _ early late =>
      rcases early sound with taken | ⟨skipped, rfl⟩
      · exact .inl (by simp [Gram.takes, taken])
      · rcases late sound with taken | ⟨both, same⟩
        · exact .inl (by simp [Gram.takes, skipped, taken])
        · exact .inr ⟨by simp [Gram.skips, skipped, both], same⟩
  | left _ chosen | right _ _ chosen =>
      rcases chosen sound with taken | ⟨skipped, same⟩
      · exact .inl (by simp [Gram.takes, taken])
      · exact .inr ⟨by simp [Gram.skips, skipped], same⟩
  -- a repetition that has read nothing is where it was, so that it is foreseen like the first
  | more _ _ once again | grow _ _ once again =>
      rcases once sound with taken | ⟨-, rfl⟩
      · exact .inl taken
      · exact again sound
  | node _ inside | as _ inside => exact inside sound
  | @rule name _ _ _ _ _ inside =>
      refine .inl (Bool.of_not_eq_false fun impossible => ?_)
      have refused := sound.rule name impossible
      rcases inside sound with taken | ⟨skipped, -⟩
      · simp [refused.1] at taken
      · simp [refused.2] at skipped

/-- Reading never runs on without end. -/
theorem reading_given (ranked : Ranked rules rank bound) (g : Gram Rule) (setting : Setting)
    (cursor : Cursor) (fits : g.fits rank bound = true) :
    reading rules g setting cursor ≠ .exhausted := by
  have given := read_given ranked _ g setting cursor fits le_rfl
  rw [reading_eq_read rules given]
  exact given

/-- An expression that can neither take the next token nor do without does not match. -/
theorem reading_refused (ranked : Ranked rules rank bound) {next : Outlook Rule} {cursor : Cursor}
    (sound : next.Sound rules cursor) (g : Gram Rule) (setting : Setting)
    (fits : g.fits rank bound = true) (refused : g.takes next = false)
    (needed : g.skips next = false) : reading rules g setting cursor = .mismatch := by
  cases found : reading rules g setting cursor with
  | done trees rest =>
      rcases (reads_iff.2 found).foreseen sound with taken | ⟨skipped, -⟩
      · simp [refused] at taken
      · simp [needed] at skipped
  | mismatch => rfl
  | exhausted => exact absurd found (reading_given ranked g setting cursor fits)

end Soundness

/-! The outlook at a mark, and where nothing is left to read on the line. -/

/-- The next token is the mark `text`, which is no terminator; `starts` may start with it. -/
def Outlook.mark (text : String) (starts : Rule → Bool) : Outlook Rule where
  shape
    | .mark other | .sameLine other => other = text
    | .opening part => part.toList.isPrefixOf text.toList
    | .literal lexeme => lexeme = .mark
    | .keyword _ | .oneOf _ | .name _ => false
  rule := starts
  terminator := false

def Outlook.ended : Outlook Rule := ⟨fun _ => false, fun _ => false, true⟩

/-- Whether a rule can be left out: it is not among those that may start with the next token, and is
rightly so. -/
def Outlook.agrees (next : Outlook Rule) (name : Rule) : Bool :=
  next.rule name || (!(rules name).takes next && !(rules name).skips next)

def closers : List String := [",", ")", "]", "\x7d", ":"]

theorem closers_agree (text : String) (closer : text ∈ closers) (name : Rule) :
    (Outlook.mark text fun _ => false).agrees name = true := by
  have checked : (closers.all fun text =>
      Rule.list.all (Outlook.mark text fun _ => false).agrees) = true := by decide +kernel
  exact Rule.forall_of_list (List.all_eq_true.1 checked text closer) name

theorem ended_agree (name : Rule) : Outlook.ended.agrees name = true :=
  Rule.forall_of_list (by decide +kernel) name

theorem Outlook.refused {next : Outlook Rule} (agrees : ∀ name, next.agrees name = true)
    (name : Rule) (absent : next.rule name = false) :
    (rules name).takes next = false ∧ (rules name).skips next = false := by
  have checked := agrees name
  simpa [Outlook.agrees, absent] using checked

/-- Whether reading cannot go on: no token is left, or the line has ended. -/
def Cursor.isEnded (cursor : Cursor) : Prop := cursor.tokens = [] ∨ cursor.broken = true

theorem leaf_ended {cursor : Cursor} (ended : cursor.isEnded) (kind : Kind) (shape : Shape)
    (follows : Bool) : cursor.leaf kind shape follows = .mismatch := by
  unfold Cursor.leaf
  rcases ended with none | broken
  · simp [none, Shape.take?]
  · simp [broken]

theorem Outlook.mark_sound {text : String} {starts : Rule → Bool} {token : Token}
    {tokens : List Token} (broken : Bool) (isMark : token.lexeme = .mark)
    (same : token.text = text) (other : Cursor.isTerminator token = false)
    (agrees : ∀ name, (Outlook.mark text starts).agrees name = true)
    (whole : broken = false) :
    (Outlook.mark text starts).Sound rules ⟨token :: tokens, broken⟩ where
  leaf kind shape follows refused := by
    subst same whole
    unfold Cursor.leaf
    cases shape with
    | mark other | sameLine other =>
        have different : ¬ token.text = other := fun equal => by simp [Outlook.mark, equal] at refused
        simp [Shape.take?, different]
    | opening part =>
        have different : part.toList.isPrefixOf token.text.toList = false := refused
        simp [Shape.take?, different]
    | literal lexeme =>
        have different : ¬ token.lexeme = lexeme := fun equal => by
          simp [Outlook.mark, ← equal, isMark] at refused
        simp [Shape.take?, different]
    | keyword _ | oneOf _ | name _ => simp [Shape.take?, isMark]
  terminator follows _ := by simp [Cursor.terminator, whole, other]
  rule := Outlook.refused agrees

/-- Whether a rule's part of the source ends here: nothing can be read, or a closer comes next. -/
def Cursor.isClosed (cursor : Cursor) : Prop :=
  cursor.isEnded ∨
    ∃ token rest, cursor.tokens = token :: rest ∧ token.lexeme = .mark ∧ token.text ∈ closers

/-- Whether an expression must read something, and cannot start with a closer or a terminator. -/
def Gram.opens (g : Form) : Bool :=
  g.fits Rule.rank 62 && !g.startsWithTerminator
    && !g.takes Outlook.ended && !g.skips Outlook.ended
    && closers.all fun text =>
      !g.takes (Outlook.mark text fun _ => false) && !g.skips (Outlook.mark text fun _ => false)

theorem Gram.opens_rule (name : Rule) : (Gram.rule name : Form).opens = true := rfl

theorem Gram.opens_flat {g : Form} (opens : g.opens = true) : g.startsWithTerminator = false := by
  simp only [Gram.opens, Bool.and_eq_true, Bool.not_eq_true'] at opens
  exact opens.1.1.1.2

theorem reading_closed {cursor : Cursor} (closed : cursor.isClosed) {g : Form}
    (opens : g.opens = true) (setting : Setting) :
    reading rules g setting cursor = .mismatch := by
  simp only [Gram.opens, Bool.and_eq_true, Bool.not_eq_true', List.all_eq_true] at opens
  obtain ⟨⟨⟨⟨fits, -⟩, takes⟩, skips⟩, marks⟩ := opens
  have ends (ended : cursor.isEnded) : reading rules g setting cursor = .mismatch :=
    reading_refused rules_ranked
      { leaf := fun kind shape follows _ => leaf_ended ended kind shape follows
        terminator := fun _ impossible => by simp [Outlook.ended] at impossible
        rule := Outlook.refused ended_agree } g setting fits takes skips
  rcases closed with ended | ⟨token, rest, same, isMark, closer⟩
  · exact ends ended
  · obtain ⟨tokens, broken⟩ := cursor
    cases broken with
    | true => exact ends (.inr rfl)
    | false =>
        subst same
        have other : Cursor.isTerminator token = false := by
          simp only [closers, List.mem_cons, List.not_mem_nil, or_false] at closer
          rcases closer with same | same | same | same | same <;>
            simp [Cursor.isTerminator, same]
        exact reading_refused rules_ranked
          (Outlook.mark_sound false isMark rfl other (closers_agree _ closer) rfl) g setting fits
          (marks _ closer).1 (marks _ closer).2

end InterfaceMocks.Grammar
