/-
**Procedures read along the rules.**

A rule and the actions of a procedure say the same in different ways.  The reader of a rule collects
trees, tries the class of every token and counts the levels that are left; a procedure writes at
once, passes over tokens that have been looked at before and counts the levels that are taken.
Still every exit of a procedure is the end of a run of the reader: where the procedure returns, the
reader reads the row of trees that has been written, and where it fails, the reader fails in the
same way.

Each form of a rule has its form among the actions, and a procedure is put together from these.
Only what is called is left open here: the other procedures are taken to read along their own rules.

Main definitions:

* `Answers` — an exit is the end of a run of the reader;
* `Follows` — actions read along a rule, where something is given of what is ahead;
* `Production.rule`, `Production.given` — the rule of a production, and what its callers have seen;
* `Production.CallReads`, `Production.BodyReads` — a production reads along its rule.

Main results:

* `Follows.cons`, `Follows.branch`, `Follows.loop`, `Follows.bracketed`, `Follows.element`,
  `Follows.nested` — the forms of rules;
* `bodyReads_classDec` and so on — **every procedure reads along its rule**, if those that it calls
  do so.
-/

import JackSyntax.Proofs.Descent.Brackets

set_option relaxedAutoImplicit false
set_option autoImplicit false

namespace JackSyntax

open JackSyntax.Tree

/-! ### Exits -/

theorem Exit.andThen_assoc (e : Exit) (first second : Descent → Exit) :
    (e.andThen first).andThen second = e.andThen fun d => (first d).andThen second := by
  cases e <;> rfl

@[simp] theorem Trace.exit_andThen (t : Trace) (next : Descent → Trace) :
    (t.andThen next).exit = t.exit.andThen fun d => (next d).exit := by
  obtain ⟨moments, exit⟩ := t
  cases exit <;> rfl

section

variable {call : Production → Descent → Trace} {calls : List Production}

theorem exit_performAll_append (first second : List Action) (d : Descent) :
    (Action.performAll call calls (first ++ second) d).exit =
      (Action.performAll call calls first d).exit.andThen fun d =>
        (Action.performAll call calls second d).exit := by
  induction first generalizing d with
  | nil => rfl
  | cons action first ih =>
      simp only [List.cons_append, Action.performAll, Trace.exit_andThen, ih, Exit.andThen_assoc]

theorem exit_performAll_singleton (action : Action) (d : Descent) :
    (Action.performAll call calls [action] d).exit = (action.perform call calls d).exit := by
  rw [Action.performAll, Trace.exit_andThen]
  cases (action.perform call calls d).exit <;> rfl

end

/-! ### Runs of the reader -/

/-- With so many levels left, an exit is the end of a run of the reader along the rule: the row of
trees that is read has been written, or the reading fails. -/
def Answers (levels : Nat) (rule : Rule) (d : Descent) : Exit → Prop
  | .returned d' =>
      ∃ row, d'.depth = d.depth ∧ d'.writer = writeRow d.writer row ∧
        Rule.Reads levels rule d.ahead row d'.ahead
  | .failed failure => Rule.Fails levels rule d.ahead failure
  | .gaveUp => False

namespace Answers

variable {levels levels' : Nat} {rule rule' body : Rule} {d : Descent} {e : Exit}

/-- A run along one rule is a run along another that has the same runs. -/
theorem imp (h : Answers levels rule d e)
    (reads : ∀ row s, Rule.Reads levels rule d.ahead row s → Rule.Reads levels rule' d.ahead row s)
    (fails : ∀ failure, Rule.Fails levels rule d.ahead failure →
      Rule.Fails levels rule' d.ahead failure) : Answers levels rule' d e := by
  cases e with
  | returned d' =>
      obtain ⟨row, depth, writer, run⟩ := h
      exact ⟨row, depth, writer, reads row d'.ahead run⟩
  | failed failure => exact fails failure h
  | gaveUp => exact h

/-- What advancing over a token of a class is. -/
theorem advance {terminal : Terminal} (seen : d.ahead.sees terminal = true) :
    Answers levels (.token terminal) d d.advance := by
  obtain ⟨⟨tokens, ending⟩, depth, writer⟩ := d
  cases tokens with
  | nil => cases seen
  | cons token tokens =>
      unfold Descent.advance
      cases loading : Scan.load ⟨tokens, ending⟩ with
      | ok ahead =>
          obtain ⟨rfl, loaded⟩ := Scan.loaded_of_load loading
          simp only [loading]
          exact ⟨[.leaf token.item], rfl, rfl, .token levels seen loaded⟩
      | error failure =>
          obtain ⟨error, empty, rfl⟩ := Scan.load_eq_error_iff.1 loading
          obtain ⟨rfl, rfl⟩ := Scan.mk.inj empty
          simp only [loading]
          exact .cut levels seen

/-- One run behind another. -/
theorem andThen {next : Descent → Exit} (h : Answers levels rule d e)
    (h' : ∀ d', d'.depth = d.depth → Answers levels rule' d' (next d')) :
    Answers levels (.seq rule rule') d (e.andThen next) := by
  cases e with
  | gaveUp => exact h
  | failed failure => exact .first rule' h
  | returned d₁ =>
      obtain ⟨row, depth, writer, reads⟩ := h
      have later := h' d₁ depth
      change Answers _ _ _ (next d₁)
      cases answer : next d₁ with
      | gaveUp =>
          rw [answer] at later
          exact later
      | failed failure =>
          rw [answer] at later
          exact .second reads later
      | returned d₂ =>
          rw [answer] at later
          obtain ⟨row', depth', writer', reads'⟩ := later
          refine ⟨row ++ row', depth'.trans depth, ?_, .seq reads reads'⟩
          rw [writer', writer, Draft.writeRow_append]

/-- As many rounds as there are tokens ahead are enough for a loop that reads a token in each. -/
theorem repeatWhile {terminal : Terminal} {round : Descent → Trace}
    (solid : body.isNullable = false)
    (h : ∀ d', d'.depth = d.depth → d'.ahead.sees terminal = true →
      Answers levels body d' (round d').exit) (rounds : List (Located Token))
    (enough : d.ahead.tokens.length ≤ rounds.length) :
    Answers levels (.loop terminal body) d (Trace.repeatWhile terminal round rounds d).exit := by
  induction rounds generalizing d with
  | nil =>
      have none := List.length_eq_zero_iff.1 (Nat.le_zero.1 enough)
      have unseen : d.ahead.sees terminal = false := by simp [Scan.sees, Scan.lookahead, none]
      rw [Trace.repeatWhile, unseen]
      exact ⟨[], rfl, rfl, .done levels body unseen⟩
  | cons _ rounds ih =>
      unfold Trace.repeatWhile
      split
      · rename_i seen
        rw [Trace.exit_andThen]
        have once := h d rfl seen
        cases answer : (round d).exit with
        | gaveUp =>
            rw [answer] at once
            exact once
        | failed failure =>
            rw [answer] at once
            exact .round seen once
        | returned d₁ =>
            rw [answer] at once
            obtain ⟨row, depth, writer, reads⟩ := once
            -- the round has read a token, so the others are enough for what follows
            have shorter := reads.length_lt solid
            rw [List.length_cons] at enough
            have further := ih (d := d₁) (fun d' same => h d' (same.trans depth)) (by omega)
            change Answers _ _ _ (Trace.repeatWhile terminal round rounds d₁).exit
            cases answer' : (Trace.repeatWhile terminal round rounds d₁).exit with
            | gaveUp =>
                rw [answer'] at further
                exact further
            | failed failure =>
                rw [answer'] at further
                exact .later seen reads further
            | returned d₂ =>
                rw [answer'] at further
                obtain ⟨row', depth', writer', reads'⟩ := further
                refine ⟨row ++ row', depth'.trans depth, ?_, .more seen reads reads'⟩
                rw [writer', writer, Draft.writeRow_append]
      · rename_i unseen
        exact ⟨[], rfl, rfl, .done levels body (Bool.eq_false_iff.2 unseen)⟩

/-- A phrase is written around what is read inside it. -/
theorem element {phrase : Phrase}
    (h : Answers levels body { d with writer := d.writer.write (.opening phrase.tag) } e) :
    Answers levels (.element phrase body) d
      (e.andThen fun d' => d'.make (.closing phrase)) := by
  cases e with
  | gaveUp => exact h
  | failed failure => exact .element phrase h
  | returned d' =>
      obtain ⟨row, depth, writer, reads⟩ := h
      refine ⟨[.node phrase row], depth, ?_, .element phrase reads⟩
      exact congrArg (Writer.write · (.closing phrase.tag)) writer

/-- A recursive phrase takes a level, and gives it back. -/
theorem nested {phrase : Recursive}
    (h : Answers levels (Grammar.body phrase) { d with depth := d.depth + 1 } e) :
    Answers (levels + 1) (.nested phrase) d (e.andThen fun d' => d'.make .leave) := by
  cases e with
  | gaveUp => exact h
  | failed failure => exact .nested h
  | returned d' =>
      obtain ⟨row, depth, writer, reads⟩ := h
      refine ⟨row, ?_, writer, .nested reads⟩
      exact congrArg (· - 1) depth

end Answers

/-! ### Actions along a rule -/

/-- Where `given` holds of what is ahead and so many levels are left, the actions read along the
rule. -/
def Follows (call : Production → Descent → Trace) (calls : List Production) (levels : Nat)
    (given : Scan → Prop) (actions : List Action) (rule : Rule) : Prop :=
  ∀ d : Descent, d.depth + levels = maxNesting → given d.ahead →
    Answers levels rule d (Action.performAll call calls actions d).exit

/-- Nothing is given of what is ahead. -/
def Anything : Scan → Prop := fun _ => True

/-- The lookahead is known to belong to a class. -/
def Seen (terminal : Terminal) : Scan → Prop := fun s => s.sees terminal = true

namespace Follows

variable {call : Production → Descent → Trace} {calls : List Production} {levels : Nat}
  {given given' : Scan → Prop} {actions first second yes no : List Action}
  {rule rule' body : Rule} {terminal : Terminal}

theorem imp (h : Follows call calls levels given actions rule) (weaker : ∀ s, given' s → given s) :
    Follows call calls levels given' actions rule :=
  fun d room granted => h d room (weaker _ granted)

/-- What can be done anywhere can be done here. -/
theorem here (h : Follows call calls levels Anything actions rule) :
    Follows call calls levels given actions rule := h.imp fun _ _ => trivial

theorem empty : Follows call calls levels given [] .empty :=
  fun d _ _ => ⟨[], rfl, rfl, .empty levels d.ahead⟩

theorem refuse : Follows call calls levels given [.refuse terminal] (.refuse terminal) := by
  intro d _ _
  rw [exit_performAll_singleton]
  exact .refuse levels terminal d.ahead

/-- Advancing reads a token of any class that has been seen. -/
theorem advance (seen : ∀ s, given s → s.sees terminal = true) :
    Follows call calls levels given [.advance] (.token terminal) := by
  intro d _ granted
  rw [exit_performAll_singleton]
  exact Answers.advance (seen _ granted)

/-- A token is expected, and read if it is there. -/
theorem expect : Follows call calls levels given [.expect terminal] (.token terminal) := by
  intro d _ _
  rw [exit_performAll_singleton]
  change Answers _ _ _ (if d.ahead.sees terminal then d.advance else d.missing terminal)
  split
  · rename_i seen
    exact Answers.advance seen
  · rename_i unseen
    exact .missing levels (Bool.eq_false_iff.2 unseen)

theorem append (h : Follows call calls levels given first rule)
    (h' : Follows call calls levels Anything second rule') :
    Follows call calls levels given (first ++ second) (.seq rule rule') := by
  intro d room granted
  rw [exit_performAll_append]
  exact (h d room granted).andThen fun d' same => h' d' (same ▸ room) trivial

theorem cons {action : Action} (h : Follows call calls levels given [action] rule)
    (h' : Follows call calls levels Anything actions rule') :
    Follows call calls levels given (action :: actions) (.seq rule rule') := h.append h'

/-- The class of the lookahead decides in the same way. -/
theorem branch
    (h : Follows call calls levels (fun s => given s ∧ s.sees terminal = true) yes rule)
    (h' : Follows call calls levels (fun s => given s ∧ s.sees terminal = false) no rule') :
    Follows call calls levels given [.choose terminal yes no] (.branch terminal rule rule') := by
  intro d room granted
  rw [exit_performAll_singleton]
  change Answers _ _ _ (Trace.exit (if d.ahead.sees terminal then _ else _))
  split
  · rename_i seen
    exact (h d room ⟨granted, seen⟩).imp (fun _ _ => .yes rule' seen) (fun _ => .yes rule' seen)
  · rename_i unseen
    have blind := Bool.eq_false_iff.2 unseen
    exact (h' d room ⟨granted, blind⟩).imp (fun _ _ => .no rule blind) (fun _ => .no rule blind)

/-- A token may be looked for before it is read. -/
theorem checked : Follows call calls levels given [.choose terminal [.advance] [.refuse terminal]]
    (.token terminal) := by
  intro d room granted
  have branched : Follows call calls levels given [.choose terminal [.advance] [.refuse terminal]]
      (.branch terminal (.token terminal) (.refuse terminal)) :=
    branch (advance fun _ granted => granted.2) refuse
  refine (branched d room granted).imp (fun row s reads => ?_) (fun failure fails => ?_)
  · cases reads with
    | yes _ _ reads => exact reads
    | no _ _ reads => cases reads
  · cases fails with
    | yes _ _ fails => exact fails
    | no _ unseen fails =>
        cases fails
        exact .missing levels unseen

/-- Where no token of a class is ahead, it is refused before anything else is done. -/
theorem guarded (h : Follows call calls levels (Seen terminal) actions rule) :
    Follows call calls levels given (.choose terminal [] [.refuse terminal] :: actions)
      (.branch terminal rule (.refuse terminal)) := by
  intro d room _
  rw [Action.performAll, Trace.exit_andThen]
  change Answers _ _ _ ((Trace.exit (if d.ahead.sees terminal then _ else _)).andThen _)
  split
  · rename_i seen
    exact (h d room seen).imp (fun _ _ => .yes _ seen) (fun _ => .yes _ seen)
  · rename_i unseen
    exact .no rule (Bool.eq_false_iff.2 unseen) (.refuse levels terminal d.ahead)

theorem loop (solid : body.isNullable = false)
    (h : Follows call calls levels (Seen terminal) actions body) :
    Follows call calls levels given [.loop terminal actions] (.loop terminal body) := by
  intro d room _
  rw [exit_performAll_singleton]
  exact Answers.repeatWhile solid (fun d' same => h d' (same ▸ room)) _ (Nat.le_refl _)

/-- Brackets are read around a production. -/
theorem bracketed {production : Production}
    (h : Follows call calls levels Anything [.call production] rule) (left right : Char) :
    Follows call calls levels given (Action.bracketed left production right)
      (Rule.bracketed left rule right) := by
  refine .cons .expect ?_
  exact .cons h .expect

/-- The tags of a phrase are written around what is read inside it. -/
theorem element {phrase : Phrase} (h : Follows call calls levels given actions.dropLast body)
    (last : actions.getLast? = some (.closing phrase)) :
    Follows call calls levels given (.opening phrase :: actions) (.element phrase body) := by
  intro d room granted
  rw [← List.dropLast_append_getLast? _ last, Action.performAll, Trace.exit_andThen]
  let opened : Descent := { d with writer := d.writer.write (.opening phrase.tag) }
  change Answers _ _ _ (Trace.exit (Action.performAll call calls (_ ++ [.closing phrase]) opened))
  rw [exit_performAll_append]
  simp only [exit_performAll_singleton]
  exact Answers.element (h opened room granted)

/-- Where no level is left, a recursive phrase cannot be entered; otherwise it takes one. -/
theorem nested {phrase : Recursive}
    (h : ∀ below, levels = below + 1 →
      Follows call calls below given actions.dropLast (Grammar.body phrase))
    (last : actions.getLast? = some .leave) :
    Follows call calls levels given (.enter :: actions) (.nested phrase) := by
  intro d room granted
  rw [← List.dropLast_append_getLast? _ last, Action.performAll, Trace.exit_andThen]
  change Answers _ _ _ (Exit.andThen (if d.depth = maxNesting then _ else _) _)
  split
  · rename_i full
    obtain rfl : levels = 0 := by omega
    exact .tooDeep phrase d.ahead
  · rename_i space
    obtain ⟨below, rfl⟩ : ∃ below, levels = below + 1 := ⟨levels - 1, by omega⟩
    let entered : Descent := { d with depth := d.depth + 1 }
    have room' : entered.depth + below = maxNesting := by simp only [entered]; omega
    change Answers _ _ _ (Trace.exit (Action.performAll call calls (_ ++ [.leave]) entered))
    rw [exit_performAll_append]
    simp only [exit_performAll_singleton]
    exact Answers.nested (h below rfl entered room' granted)

end Follows

/-! ### Procedures -/

namespace Production

/-- The rule of a production. -/
def rule : Production → Rule
  | .classDec => .element .classDec Grammar.classBody
  | .classVarDec => Grammar.classVarDec
  | .names => Grammar.names
  | .subroutineDec => Grammar.subroutineDec
  | .parameterList => Grammar.parameterList
  | .subroutineBody => Grammar.subroutineBody
  | .varDec => Grammar.varDec
  | .statements => Grammar.statements
  | .letStatement => Grammar.letStatement
  | .ifStatement => Grammar.ifStatement
  | .whileStatement => Grammar.whileStatement
  | .condition => Grammar.condition
  | .block => Grammar.block
  | .doStatement => Grammar.doStatement
  | .returnStatement => Grammar.returnStatement
  | .expression => Grammar.expression
  | .term => Grammar.term
  | .nameTail => Grammar.nameTail
  | .arguments => Grammar.arguments
  | .expressionList => Grammar.expressionList

/-- What the callers of a production have seen ahead. -/
def given : Production → Scan → Prop
  | .classVarDec => Seen .classVarKind
  | .subroutineDec => Seen .subroutineKind
  | .varDec => Seen (.keyword .var)
  | .letStatement => Seen (.keyword .«let»)
  | .ifStatement => Seen (.keyword .«if»)
  | .whileStatement => Seen (.keyword .«while»)
  | .doStatement => Seen (.keyword .«do»)
  | .returnStatement => Seen (.keyword .«return»)
  | _ => Anything

variable (call : Production → Descent → Trace) (calls : List Production) (levels : Nat)

/-- With so many levels left, the calls of a production read along its rule. -/
abbrev CallReads (production : Production) : Prop :=
  Follows call calls levels production.given [.call production] production.rule

/-- With so many levels left, the procedure of a production reads along its rule. -/
abbrev BodyReads (production : Production) : Prop :=
  Follows call calls levels production.given production.body production.rule

end Production

section

open Production (CallReads BodyReads)

variable {call : Production → Descent → Trace} {calls : List Production} {levels : Nat}

/-! #### Declarations -/

theorem bodyReads_names : BodyReads call calls levels .names := by
  refine .cons .expect (.loop rfl ?_)
  exact .cons (.advance fun _ seen => seen) .expect

/-- Declarations of variables differ in their first token only. -/
theorem follows_varDeclaration (names : CallReads call calls levels .names) (phrase : Phrase)
    (kind : Terminal) :
    Follows call calls levels (Seen kind) (Action.varDeclaration phrase)
      (.element phrase (.sequence [.token kind, .token .type, Grammar.names, .symbol ';'])) := by
  refine .element (.cons (.advance fun _ seen => seen) ?_) rfl
  exact .cons .expect (.cons names .expect)

theorem bodyReads_parameterList : BodyReads call calls levels .parameterList := by
  have parameter : Follows call calls levels Anything [.expect .type, .expect .identifier]
      (.seq (.token .type) (.token .identifier)) := .cons .expect .expect
  have others : Follows call calls levels Anything
      [.loop (.symbol ',') [.advance, .expect .type, .expect .identifier]]
      (.loop (.symbol ',') (.seq (.token (.symbol ','))
        (.seq (.token .type) (.token .identifier)))) :=
    .loop rfl (.cons (.advance fun _ seen => seen) parameter)
  exact .element (.branch .empty (parameter.append others).here) rfl

theorem bodyReads_subroutineBody (varDec : CallReads call calls levels .varDec)
    (statements : CallReads call calls levels .statements) :
    BodyReads call calls levels .subroutineBody := by
  refine .element (.cons .expect (.cons (.loop rfl varDec) ?_)) rfl
  exact .cons statements .expect

theorem bodyReads_subroutineDec (parameterList : CallReads call calls levels .parameterList)
    (subroutineBody : CallReads call calls levels .subroutineBody) :
    BodyReads call calls levels .subroutineDec := by
  refine .element (.cons (.advance fun _ seen => seen) ?_) rfl
  refine .cons .checked (.cons .expect (.cons .expect ?_))
  exact .cons parameterList (.cons .expect subroutineBody)

theorem bodyReads_classDec (classVarDec : CallReads call calls levels .classVarDec)
    (subroutineDec : CallReads call calls levels .subroutineDec) :
    BodyReads call calls levels .classDec := by
  refine .element (.cons .expect (.cons .expect (.cons .expect ?_))) rfl
  exact .cons (.loop rfl classVarDec) (.cons (.loop rfl subroutineDec) .expect)

/-! #### Statements -/

theorem bodyReads_letStatement (expression : CallReads call calls levels .expression) :
    BodyReads call calls levels .letStatement := by
  have index : Follows call calls levels Anything
      [.choose (.symbol '[') [.advance, .call .expression, .expect (.symbol ']')] []]
      (.branch (.symbol '[') Grammar.index .empty) := by
    refine .branch (.cons (.advance fun _ granted => granted.2) ?_) .empty
    exact .cons expression .expect
  refine .element (.cons (.advance fun _ seen => seen) ?_) rfl
  refine .cons .expect (.cons index ?_)
  exact .cons .expect (.cons expression .expect)

theorem bodyReads_condition (expression : CallReads call calls levels .expression) :
    BodyReads call calls levels .condition :=
  expression.bracketed '(' ')'

theorem bodyReads_block (statements : CallReads call calls levels .statements) :
    BodyReads call calls levels .block :=
  statements.bracketed '\x7b' '\x7d'

theorem bodyReads_ifStatement (condition : CallReads call calls levels .condition)
    (block : CallReads call calls levels .block) : BodyReads call calls levels .ifStatement := by
  have alternative : Follows call calls levels Anything
      [.choose (.keyword .«else») [.advance, .call .block] []]
      (.branch (.keyword .«else») (.seq (.token (.keyword .«else»)) Grammar.block) .empty) :=
    .branch (.cons (.advance fun _ granted => granted.2) block) .empty
  refine .element (.cons (.advance fun _ seen => seen) ?_) rfl
  exact .cons condition (.cons block alternative)

theorem bodyReads_whileStatement (condition : CallReads call calls levels .condition)
    (block : CallReads call calls levels .block) : BodyReads call calls levels .whileStatement := by
  refine .element (.cons (.advance fun _ seen => seen) ?_) rfl
  exact .cons condition block

theorem bodyReads_doStatement (arguments : CallReads call calls levels .arguments) :
    BodyReads call calls levels .doStatement := by
  have member : Follows call calls levels Anything
      [.choose (.symbol '.') [.advance, .expect .identifier] []]
      (.branch (.symbol '.') (.seq (.token (.symbol '.')) (.token .identifier)) .empty) :=
    .branch (.cons (.advance fun _ granted => granted.2) .expect) .empty
  refine .element (.cons (.advance fun _ seen => seen) ?_) rfl
  exact .cons .expect (.cons member (.cons arguments .expect))

theorem bodyReads_returnStatement (expression : CallReads call calls levels .expression) :
    BodyReads call calls levels .returnStatement := by
  refine .element (.cons (.advance fun _ seen => seen) ?_) rfl
  exact .cons (.branch .empty expression.here) .expect

/-- A statement that does not begin with one of the other keywords begins with the last one. -/
theorem sees_return_of_statement {s : Scan} (seen : s.sees .statement = true)
    (noLet : s.sees (.keyword .«let») = false) (noIf : s.sees (.keyword .«if») = false)
    (noWhile : s.sees (.keyword .«while») = false) (noDo : s.sees (.keyword .«do») = false) :
    s.sees (.keyword .«return») = true := by
  unfold Scan.sees at *
  cases ahead : s.lookahead with
  | none => simp [ahead] at seen
  | some token =>
      simp only [ahead, Option.any_some, Terminal.admits_iff, Terminal.kinds, List.mem_cons,
        List.not_mem_nil, or_false, ← Bool.not_eq_true] at *
      tauto

theorem bodyReads_statements
    (inside : ∀ below, levels = below + 1 → ∀ production, CallReads call calls below production) :
    BodyReads call calls levels .statements := by
  refine .nested (fun below less => .element (.loop rfl ?_) rfl) rfl
  have statement := inside below less
  refine .branch ((statement .letStatement).imp fun _ granted => granted.2) ?_
  refine .branch ((statement .ifStatement).imp fun _ granted => granted.2) ?_
  refine .branch ((statement .whileStatement).imp fun _ granted => granted.2) ?_
  refine .branch ((statement .doStatement).imp fun _ granted => granted.2) ?_
  -- the last keyword is not looked for
  refine (statement .returnStatement).imp ?_
  rintro s ⟨⟨⟨⟨seen, noLet⟩, noIf⟩, noWhile⟩, noDo⟩
  exact sees_return_of_statement seen noLet noIf noWhile noDo

/-! #### Expressions -/

theorem bodyReads_expression (term : CallReads call calls levels .term) :
    BodyReads call calls levels .expression := by
  refine .element (.cons term (.loop rfl ?_)) rfl
  exact .cons (.advance fun _ seen => seen) term

/-- A term that begins neither with a name nor with a parenthesis nor with an operator is a single
token. -/
theorem sees_constant_of_term {s : Scan} (seen : s.sees .term = true)
    (noName : s.sees .identifier = false) (noBracket : s.sees (.symbol '(') = false)
    (noOperator : s.sees .unaryOperator = false) : s.sees .constant = true := by
  unfold Scan.sees at *
  cases ahead : s.lookahead with
  | none => simp [ahead] at seen
  | some token =>
      have operators : unaryOperators.toList.map Kind.symbol = [.symbol '-', .symbol '~'] := by
        decide
      simp only [ahead, Option.any_some, Terminal.admits_iff, Terminal.kinds, operators,
        List.mem_cons, List.not_mem_nil, or_false, ← Bool.not_eq_true] at *
      tauto

theorem bodyReads_term
    (inside : ∀ below, levels = below + 1 → ∀ production, CallReads call calls below production) :
    BodyReads call calls levels .term := by
  refine .guarded (.nested (fun below less => .element ?_ rfl) rfl)
  have inner := inside below less
  refine .branch (.cons (.advance fun _ granted => granted.2) (inner .nameTail)) ?_
  refine .branch (.cons (.advance fun _ granted => granted.2)
    (.cons (inner .expression) .expect)) ?_
  refine .branch (.cons (.advance fun _ granted => granted.2) (inner .term)) ?_
  -- that a single token begins a term has been seen before
  refine .advance ?_
  rintro s ⟨⟨⟨seen, noName⟩, noBracket⟩, noOperator⟩
  exact sees_constant_of_term seen noName noBracket noOperator

theorem bodyReads_nameTail (expression : CallReads call calls levels .expression)
    (arguments : CallReads call calls levels .arguments) :
    BodyReads call calls levels .nameTail := by
  refine .branch (.cons (.advance fun _ granted => granted.2) (.cons .expect arguments)) ?_
  refine .branch (.cons (.advance fun _ granted => granted.2) (.cons expression .expect)) ?_
  exact .branch arguments.here .empty

theorem bodyReads_arguments (expressionList : CallReads call calls levels .expressionList) :
    BodyReads call calls levels .arguments :=
  expressionList.bracketed '(' ')'

theorem bodyReads_expressionList (expression : CallReads call calls levels .expression) :
    BodyReads call calls levels .expressionList := by
  have others : Follows call calls levels Anything
      [.loop (.symbol ',') [.advance, .call .expression]]
      (.loop (.symbol ',') (.seq (.token (.symbol ',')) Grammar.expression)) :=
    .loop rfl (.cons (.advance fun _ seen => seen) expression)
  exact .element (.branch .empty (.cons expression.here others)) rfl

end

end JackSyntax
