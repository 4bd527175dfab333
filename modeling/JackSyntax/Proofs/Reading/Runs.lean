/-
**Runs of the reader.**

`Rule.read` is a function: it threads the trees read so far through every call, and its loops count
their rounds down.  What happens in a run is easier to follow as two relations, one for the runs
that succeed and one for those that fail, in which neither the trees of the surrounding phrase nor
the rounds occur. This module defines the two relations and proves that they are the function.

Main definitions:

* `Scan.sees`, `Scan.Loaded` — the lookahead belongs to a class; the lookahead is known;
* `Rule.Reads` — a rule is read, as a row of trees, from one scan to another;
* `Rule.Fails` — the reading of a rule fails.

Main results:

* `Rule.Reads.consumes`, `Rule.Reads.describes` — the tokens that were read are the leaves of a row
  that the rule describes;
* `Rule.read_eq_ok_iff`, `Rule.read_eq_error_iff` — **the relations are the function**.
-/

import JackSyntax.Proofs.Grammar.Lookahead
import JackSyntax.Proofs.Lexing.Scanning
import JackSyntax.Grammar.Reading

set_option relaxedAutoImplicit false
set_option autoImplicit false

namespace JackSyntax

open JackSyntax.Tree

/-! ### Scans -/

namespace Scan

/-- Whether the lookahead belongs to a class. -/
def sees (s : Scan) (terminal : Terminal) : Bool := s.lookahead.any terminal.admits

/-- The lookahead is known: there is a next token, or the source ends properly. -/
def Loaded (s : Scan) : Prop := s.tokens = [] → ∃ line, s.ending = .atEnd line

theorem Loaded.prepend {s : Scan} (h : s.Loaded) (passed : List (Located Token)) :
    (s.prepend passed).Loaded := by
  intro empty
  exact h (List.append_eq_nil_iff.1 empty).2

theorem loaded_cons (token : Located Token) (tokens : List (Located Token)) (ending : Ending) :
    Loaded ⟨token :: tokens, ending⟩ := by
  intro empty
  cases empty

theorem load_eq_ok {s : Scan} (h : s.Loaded) : s.load = .ok s := by
  unfold load
  split
  · rename_i empty ending
    obtain ⟨line, atEnd⟩ := h empty
    rw [atEnd] at ending
    cases ending
  · rfl

theorem loaded_of_load {s s' : Scan} (h : s.load = .ok s') : s' = s ∧ s.Loaded := by
  unfold load at h
  split at h
  · cases h
  · rename_i proper
    refine ⟨(Except.ok.inj h).symm, fun empty => ?_⟩
    cases ending : s.ending with
    | atEnd line => exact ⟨line, rfl⟩
    | failed error => exact absurd ending (proper error empty)

theorem load_eq_error_iff {s : Scan} {failure : Failure} : s.load = .error failure ↔
    ∃ error, s = ⟨[], .failed error⟩ ∧ failure = ⟨.lexical error.item, s⟩ := by
  obtain ⟨tokens, ending⟩ := s
  cases tokens <;> cases ending <;> simp [load, eq_comm]

end Scan

@[simp] theorem Reading.sees_mk (s : Scan) (trees : List Tree) (terminal : Terminal) :
    (Reading.mk s trees).sees terminal = s.sees terminal := rfl

namespace Rule

/-! ### Successful and failing runs -/

/-- `Reads levels rule s row s'`: with so many levels allowed, the rule is read as `row` from `s`
on, and `s'` is what remains. -/
inductive Reads : Nat → Rule → Scan → List Tree → Scan → Prop
  | empty (levels : Nat) (s : Scan) : Reads levels .empty s [] s
  | token (levels : Nat) {terminal : Terminal} {token : Located Token}
      {tokens : List (Located Token)} {ending : Ending} :
      terminal.admits token.item = true → Scan.Loaded ⟨tokens, ending⟩ →
      Reads levels (.token terminal) ⟨token :: tokens, ending⟩ [.leaf token.item] ⟨tokens, ending⟩
  | seq {levels : Nat} {first second : Rule} {s s₁ s₂ : Scan} {row row' : List Tree} :
      Reads levels first s row s₁ → Reads levels second s₁ row' s₂ →
      Reads levels (.seq first second) s (row ++ row') s₂
  | element {levels : Nat} (phrase : Phrase) {body : Rule} {s s' : Scan} {row : List Tree} :
      Reads levels body s row s' → Reads levels (.element phrase body) s [.node phrase row] s'
  | yes {levels : Nat} {terminal : Terminal} {yes : Rule} (no : Rule) {s s' : Scan}
      {row : List Tree} :
      s.sees terminal = true → Reads levels yes s row s' →
      Reads levels (.branch terminal yes no) s row s'
  | no {levels : Nat} {terminal : Terminal} (yes : Rule) {no : Rule} {s s' : Scan}
      {row : List Tree} :
      s.sees terminal = false → Reads levels no s row s' →
      Reads levels (.branch terminal yes no) s row s'
  | done (levels : Nat) {terminal : Terminal} (body : Rule) {s : Scan} :
      s.sees terminal = false → Reads levels (.loop terminal body) s [] s
  | more {levels : Nat} {terminal : Terminal} {body : Rule} {s s₁ s₂ : Scan}
      {row row' : List Tree} :
      s.sees terminal = true → Reads levels body s row s₁ →
      Reads levels (.loop terminal body) s₁ row' s₂ →
      Reads levels (.loop terminal body) s (row ++ row') s₂
  | nested {levels : Nat} {phrase : Recursive} {s s' : Scan} {row : List Tree} :
      Reads levels (Grammar.body phrase) s row s' → Reads (levels + 1) (.nested phrase) s row s'

/-- `Fails levels rule s failure`: with so many levels allowed, the reading of the rule from `s` on
ends with the failure. -/
inductive Fails : Nat → Rule → Scan → Failure → Prop
  | cut (levels : Nat) {terminal : Terminal} {token : Located Token} {error : LexError} :
      terminal.admits token.item = true →
      Fails levels (.token terminal) ⟨[token], .failed error⟩
        ⟨.lexical error.item, ⟨[], .failed error⟩⟩
  | missing (levels : Nat) {terminal : Terminal} {s : Scan} : s.sees terminal = false →
      Fails levels (.token terminal) s ⟨.unexpected terminal.expected s.lookahead, s⟩
  | refuse (levels : Nat) (terminal : Terminal) (s : Scan) :
      Fails levels (.refuse terminal) s ⟨.unexpected terminal.expected s.lookahead, s⟩
  | first {levels : Nat} {first : Rule} (second : Rule) {s : Scan} {failure : Failure} :
      Fails levels first s failure → Fails levels (.seq first second) s failure
  | second {levels : Nat} {first second : Rule} {s s₁ : Scan} {row : List Tree}
      {failure : Failure} :
      Reads levels first s row s₁ → Fails levels second s₁ failure →
      Fails levels (.seq first second) s failure
  | element {levels : Nat} (phrase : Phrase) {body : Rule} {s : Scan} {failure : Failure} :
      Fails levels body s failure → Fails levels (.element phrase body) s failure
  | yes {levels : Nat} {terminal : Terminal} {yes : Rule} (no : Rule) {s : Scan}
      {failure : Failure} :
      s.sees terminal = true → Fails levels yes s failure →
      Fails levels (.branch terminal yes no) s failure
  | no {levels : Nat} {terminal : Terminal} (yes : Rule) {no : Rule} {s : Scan}
      {failure : Failure} :
      s.sees terminal = false → Fails levels no s failure →
      Fails levels (.branch terminal yes no) s failure
  | round {levels : Nat} {terminal : Terminal} {body : Rule} {s : Scan} {failure : Failure} :
      s.sees terminal = true → Fails levels body s failure →
      Fails levels (.loop terminal body) s failure
  | later {levels : Nat} {terminal : Terminal} {body : Rule} {s s₁ : Scan} {row : List Tree}
      {failure : Failure} :
      s.sees terminal = true → Reads levels body s row s₁ →
      Fails levels (.loop terminal body) s₁ failure → Fails levels (.loop terminal body) s failure
  | tooDeep (phrase : Recursive) (s : Scan) : Fails 0 (.nested phrase) s ⟨.nestingTooDeep, s⟩
  | nested {levels : Nat} {phrase : Recursive} {s : Scan} {failure : Failure} :
      Fails levels (Grammar.body phrase) s failure → Fails (levels + 1) (.nested phrase) s failure

namespace Reads

variable {levels : Nat} {rule : Rule} {s s' : Scan} {row : List Tree}

/-- The tokens that were read are the leaves of the row. -/
theorem consumes (h : Reads levels rule s row s') :
    ∃ passed, s = s'.prepend passed ∧ tokensAll row = passed.map Located.item := by
  induction h with
  | empty => exact ⟨[], rfl, rfl⟩
  | @token _ _ token => exact ⟨[token], rfl, by simp⟩
  | done => exact ⟨[], rfl, rfl⟩
  | seq _ _ ih₁ ih₂ | more _ _ _ ih₁ ih₂ =>
      obtain ⟨passed₁, rfl, tokens₁⟩ := ih₁
      obtain ⟨passed₂, rfl, tokens₂⟩ := ih₂
      exact ⟨passed₁ ++ passed₂, (Scan.prepend_append ..).symm, by simp [tokens₁, tokens₂]⟩
  | element phrase _ ih =>
      obtain ⟨passed, same, tokens⟩ := ih
      exact ⟨passed, same, by simpa using tokens⟩
  | yes _ _ _ ih | no _ _ _ ih | nested _ ih => exact ih

/-- What is read is described by the rule. -/
theorem describes (h : Reads levels rule s row s') : Describes levels rule row := by
  induction h with
  | empty => exact .empty _
  | token _ admitted => exact .token _ admitted
  | seq _ _ ih₁ ih₂ => exact .seq ih₁ ih₂
  | element phrase _ ih => exact .element phrase ih
  | @yes _ terminal _ no _ _ _ _ _ ih => exact .yes terminal no ih
  | @no _ terminal yes _ _ _ _ _ _ ih => exact .no terminal yes ih
  | @done _ terminal body => exact .done _ terminal body
  | more _ _ _ ih₁ ih₂ => exact .more ih₁ ih₂
  | nested _ ih => exact .nested ih

/-- The reader always knows its lookahead. -/
theorem loaded (h : Reads levels rule s row s') (before : s.Loaded) : s'.Loaded := by
  induction h with
  | empty | done => exact before
  | token _ _ after => exact after
  | seq _ _ ih₁ ih₂ | more _ _ _ ih₁ ih₂ => exact ih₂ (ih₁ before)
  | element _ _ ih | yes _ _ _ ih | no _ _ _ ih | nested _ ih => exact ih before

/-- A rule that is not nullable consumes a token. -/
theorem length_lt (h : Reads levels rule s row s') (solid : rule.isNullable = false) :
    s'.tokens.length < s.tokens.length := by
  obtain ⟨passed, rfl, tokens⟩ := h.consumes
  cases passed with
  | nil =>
      have nullable := h.describes.isNullable_of_tokensAll (by simpa using tokens)
      rw [solid] at nullable
      cases nullable
  | cons token passed =>
      simp only [Scan.tokens_prepend, List.length_append, List.length_cons]
      omega

end Reads

/-! ### The reader in equations -/

/-- How the recursive phrases are read with so many levels allowed. -/
def deeper : Nat → Recursive → Reading → Except Failure Reading
  | 0 => fun _ r => .error ⟨.nestingTooDeep, r.ahead⟩
  | levels + 1 => fun phrase => read levels (Grammar.body phrase)

section

variable (levels : Nat) (r : Reading)

@[simp] theorem read_empty : Rule.empty.read levels r = .ok r := by
  cases levels <;> rfl

@[simp] theorem read_token (terminal : Terminal) :
    (Rule.token terminal).read levels r = r.take terminal := by
  cases levels <;> rfl

@[simp] theorem read_refuse (terminal : Terminal) :
    (Rule.refuse terminal).read levels r = r.missing terminal.expected := by
  cases levels <;> rfl

theorem read_seq (first second : Rule) :
    (Rule.seq first second).read levels r = first.read levels r >>= second.read levels := by
  cases levels <;> rfl

theorem read_element (phrase : Phrase) (body : Rule) :
    (Rule.element phrase body).read levels r = r.enclose phrase (body.read levels) := by
  cases levels <;> rfl

theorem read_branch (terminal : Terminal) (yes no : Rule) :
    (Rule.branch terminal yes no).read levels r =
      if r.sees terminal then yes.read levels r else no.read levels r := by
  cases levels <;> rfl

theorem read_loop (terminal : Terminal) (body : Rule) :
    (Rule.loop terminal body).read levels r =
      r.repeatWhile terminal (body.read levels) r.ahead.tokens := by
  cases levels <;> rfl

@[simp] theorem read_nested_zero (phrase : Recursive) :
    (Rule.nested phrase).read 0 r = .error ⟨.nestingTooDeep, r.ahead⟩ := rfl

@[simp] theorem read_nested_succ (phrase : Recursive) :
    (Rule.nested phrase).read (levels + 1) r = (Grammar.body phrase).read levels r := rfl

end

/-! ### The relations are the function -/

/-- What the reader answers, in terms of the two relations. -/
def Outcome (levels : Nat) (rule : Rule) (r : Reading) : Except Failure Reading → Prop
  | .ok r' => ∃ row, r'.trees = row.reverse ++ r.trees ∧ Reads levels rule r.ahead row r'.ahead
  | .error failure => Fails levels rule r.ahead failure

/-- An answer for one rule is an answer for another that has the same runs. -/
theorem Outcome.imp {levels levels' : Nat} {rule rule' : Rule} {r : Reading}
    {answer : Except Failure Reading} (h : Outcome levels rule r answer)
    (reads : ∀ row s', Reads levels rule r.ahead row s' → Reads levels' rule' r.ahead row s')
    (fails : ∀ failure, Fails levels rule r.ahead failure → Fails levels' rule' r.ahead failure) :
    Outcome levels' rule' r answer := by
  cases answer with
  | error failure => exact fails failure h
  | ok r' =>
      obtain ⟨row, trees, run⟩ := h
      exact ⟨row, trees, reads row r'.ahead run⟩

theorem outcome_take (levels : Nat) (terminal : Terminal) (r : Reading) :
    Outcome levels (.token terminal) r (r.take terminal) := by
  obtain ⟨⟨tokens, ending⟩, trees⟩ := r
  unfold Reading.take
  split
  · rename_i seen
    cases tokens with
    | nil => cases seen
    | cons token tokens =>
        have admitted : terminal.admits token.item = true := seen
        cases loading : Scan.load ⟨tokens, ending⟩ with
        | ok s =>
            obtain ⟨rfl, loaded⟩ := Scan.loaded_of_load loading
            simp only [Reading.shift, loading]
            exact ⟨[.leaf token.item], rfl, .token levels admitted loaded⟩
        | error failure =>
            obtain ⟨error, empty, rfl⟩ := Scan.load_eq_error_iff.1 loading
            obtain ⟨rfl, rfl⟩ := Scan.mk.inj empty
            simp only [Reading.shift, loading]
            exact .cut levels admitted
  · rename_i unseen
    exact .missing levels (Bool.eq_false_iff.2 unseen)

/-- As many rounds as there are tokens ahead are enough for a loop whose body consumes a token. -/
theorem outcome_repeatWhile {levels : Nat} {body : Rule} (solid : body.isNullable = false)
    (terminal : Terminal) {read : Reading → Except Failure Reading}
    (right : ∀ r, Outcome levels body r (read r)) (rounds : List (Located Token)) (r : Reading)
    (enough : r.ahead.tokens.length ≤ rounds.length) :
    Outcome levels (.loop terminal body) r (r.repeatWhile terminal read rounds) := by
  induction rounds generalizing r with
  | nil =>
      have empty := List.length_eq_zero_iff.1 (Nat.le_zero.1 enough)
      exact ⟨[], rfl, .done levels body (by simp [Scan.sees, Scan.lookahead, empty])⟩
  | cons _ rounds ih =>
      unfold Reading.repeatWhile
      split
      · rename_i seen
        have once := right r
        cases answer : read r with
        | error failure =>
            rw [answer] at once
            exact .round seen once
        | ok r₁ =>
            rw [answer] at once
            obtain ⟨row, trees, reads⟩ := once
            have shorter := reads.length_lt solid
            simp only [List.length_cons] at enough
            have further := ih r₁ (by omega)
            change Outcome _ _ _ (r₁.repeatWhile terminal read rounds)
            cases answer' : r₁.repeatWhile terminal read rounds with
            | error failure =>
                rw [answer'] at further
                exact .later seen reads further
            | ok r₂ =>
                rw [answer'] at further
                obtain ⟨row', trees', reads'⟩ := further
                exact ⟨row ++ row', by simp [trees, trees'], .more seen reads reads'⟩
      · rename_i unseen
        exact ⟨[], rfl, .done levels body (Bool.eq_false_iff.2 unseen)⟩

/-- The reader answers as the relations say, if it does so for the recursive phrases. -/
theorem outcome_of_nested {levels : Nat}
    (inner : ∀ phrase r, Outcome levels (.nested phrase) r ((Rule.nested phrase).read levels r))
    (rule : Rule) {follow : List (Option Kind)} (predictive : rule.isPredictive follow = true)
    (r : Reading) : Outcome levels rule r (rule.read levels r) := by
  induction rule generalizing follow r with
  | empty => exact (read_empty levels r).symm ▸ ⟨[], rfl, .empty levels r.ahead⟩
  | token terminal => exact (read_token levels r terminal).symm ▸ outcome_take levels terminal r
  | refuse terminal => exact (read_refuse levels r terminal).symm ▸ .refuse levels terminal r.ahead
  | seq first second ih₁ ih₂ =>
      simp only [isPredictive, Bool.and_eq_true] at predictive
      -- what the first part answers decides whether the second one is read at all
      have once := ih₁ predictive.1 r
      rw [read_seq]
      cases answer : first.read levels r with
      | error failure =>
          rw [answer] at once
          exact .first second once
      | ok r₁ =>
          rw [answer] at once
          obtain ⟨row, trees, reads⟩ := once
          have further := ih₂ predictive.2 r₁
          change Outcome _ _ _ (second.read levels r₁)
          cases answer' : second.read levels r₁ with
          | error failure =>
              rw [answer'] at further
              exact .second reads further
          | ok r₂ =>
              rw [answer'] at further
              obtain ⟨row', trees', reads'⟩ := further
              exact ⟨row ++ row', by simp [trees, trees'], .seq reads reads'⟩
  | element phrase body ih =>
      have once := ih predictive ⟨r.ahead, []⟩
      rw [read_element, Reading.enclose]
      cases answer : body.read levels ⟨r.ahead, []⟩ with
      | error failure =>
          rw [answer] at once
          exact .element phrase once
      | ok r₁ =>
          rw [answer] at once
          obtain ⟨row, trees, reads⟩ := once
          exact ⟨[.node phrase row], by simp [trees], .element phrase reads⟩
  | branch terminal yes no ih₁ ih₂ =>
      simp only [isPredictive, Bool.and_eq_true] at predictive
      rw [read_branch]
      split
      · rename_i seen
        exact (ih₁ predictive.1.2 r).imp (fun _ _ => .yes no seen) (fun _ => .yes no seen)
      · rename_i unseen
        have blind := Bool.eq_false_iff.2 unseen
        exact (ih₂ predictive.2 r).imp (fun _ _ => .no yes blind) (fun _ => .no yes blind)
  | loop terminal body ih =>
      simp only [isPredictive, Bool.and_eq_true, Bool.not_eq_true'] at predictive
      rw [read_loop]
      exact outcome_repeatWhile predictive.1.1.1 terminal (ih predictive.2) _ r (Nat.le_refl _)
  | nested phrase => exact inner phrase r

/-- The reader answers as the relations say. -/
theorem outcome_read (levels : Nat) (rule : Rule) {follow : List (Option Kind)}
    (predictive : rule.isPredictive follow = true) (r : Reading) :
    Outcome levels rule r (rule.read levels r) := by
  -- on the levels, and inside on the rule: a recursive phrase is read with one level less
  induction levels generalizing rule follow r with
  | zero =>
      have top : ∀ phrase r, Outcome 0 (.nested phrase) r ((Rule.nested phrase).read 0 r) :=
        fun phrase r => Fails.tooDeep phrase r.ahead
      exact outcome_of_nested top rule predictive r
  | succ levels ih =>
      refine outcome_of_nested (fun phrase r => ?_) rule predictive r
      have inner := ih (Grammar.body phrase) (Grammar.isPredictive_body phrase) r
      exact inner.imp (fun _ _ => .nested) (fun _ => .nested)

/-! ### Every run is the reader's -/

theorem sees_eq_false_of_tokens_nil {r : Reading} (none : r.ahead.tokens = [])
    (terminal : Terminal) : r.sees terminal = false := by
  simp [Reading.sees, Scan.lookahead, none]

/-- The number of rounds does not matter as long as there are enough of them. -/
theorem repeatWhile_congr {read : Reading → Except Failure Reading} (terminal : Terminal)
    (shrinks : ∀ r r', read r = .ok r' → r'.ahead.tokens.length < r.ahead.tokens.length)
    (rounds rounds' : List (Located Token)) (r : Reading)
    (enough : r.ahead.tokens.length ≤ rounds.length)
    (enough' : r.ahead.tokens.length ≤ rounds'.length) :
    r.repeatWhile terminal read rounds = r.repeatWhile terminal read rounds' := by
  induction rounds generalizing rounds' r with
  | nil =>
      have none := List.length_eq_zero_iff.1 (Nat.le_zero.1 enough)
      cases rounds' <;> simp [Reading.repeatWhile, sees_eq_false_of_tokens_nil none]
  | cons _ rounds ih =>
      cases rounds' with
      | nil =>
          have none := List.length_eq_zero_iff.1 (Nat.le_zero.1 enough')
          simp [Reading.repeatWhile, sees_eq_false_of_tokens_nil none]
      | cons _ rounds' =>
          unfold Reading.repeatWhile
          cases answer : read r with
          | error failure => rfl
          | ok r₁ =>
              have shorter := shrinks r r₁ answer
              simp only [List.length_cons] at enough enough'
              have same := ih rounds' r₁ (by omega) (by omega)
              exact congrArg (fun further => if r.sees terminal then further else .ok r) same

variable {levels : Nat} {rule : Rule} {follow : List (Option Kind)}

theorem length_lt_of_read (levels : Nat) (predictive : rule.isPredictive follow = true)
    (solid : rule.isNullable = false) (r r' : Reading) (answer : rule.read levels r = .ok r') :
    r'.ahead.tokens.length < r.ahead.tokens.length := by
  have outcome := outcome_read levels rule predictive r
  rw [answer] at outcome
  obtain ⟨row, -, reads⟩ := outcome
  exact reads.length_lt solid

/-- A loop reads its body and goes on as long as its class is ahead. -/
theorem read_loop_eq {terminal : Terminal} {body : Rule} (solid : body.isNullable = false)
    (predictive : body.isPredictive follow = true) (r : Reading) :
    (Rule.loop terminal body).read levels r =
      if r.sees terminal then body.read levels r >>= (Rule.loop terminal body).read levels
      else .ok r := by
  have shrinks := length_lt_of_read levels predictive solid
  rw [read_loop]
  cases ahead : r.ahead.tokens with
  | nil => simp [Reading.repeatWhile, sees_eq_false_of_tokens_nil ahead]
  | cons token tokens =>
      unfold Reading.repeatWhile
      cases answer : body.read levels r with
      | error failure => rfl
      | ok r₁ =>
          have shorter := shrinks r r₁ answer
          rw [ahead, List.length_cons] at shorter
          have same := repeatWhile_congr terminal shrinks tokens r₁.ahead.tokens r₁
            (by omega) (Nat.le_refl _)
          rw [← read_loop] at same
          exact congrArg (fun further => if r.sees terminal then further else .ok r) same

/-- A successful run is the reader's. -/
theorem Reads.read {s s' : Scan} {row : List Tree} (h : Reads levels rule s row s')
    (predictive : rule.isPredictive follow = true) (trees : List Tree) :
    rule.read levels ⟨s, trees⟩ = .ok ⟨s', row.reverse ++ trees⟩ := by
  induction h generalizing follow trees with
  | empty => exact read_empty _ _
  | token _ admitted loaded =>
      rw [read_token, Reading.take, if_pos (by exact admitted)]
      simp only [Reading.shift, Scan.load_eq_ok loaded]
      rfl
  | seq _ _ ih₁ ih₂ =>
      simp only [isPredictive, Bool.and_eq_true] at predictive
      rw [read_seq, ih₁ predictive.1]
      exact (ih₂ predictive.2 _).trans (by simp)
  | element phrase _ ih =>
      rw [read_element, Reading.enclose, ih predictive]
      simp [bind, Except.bind]
  | yes _ seen _ ih =>
      simp only [isPredictive, Bool.and_eq_true] at predictive
      rw [read_branch, Reading.sees_mk, if_pos seen]
      exact ih predictive.1.2 trees
  | no _ unseen _ ih =>
      simp only [isPredictive, Bool.and_eq_true] at predictive
      rw [read_branch, Reading.sees_mk, if_neg (Bool.eq_false_iff.1 unseen)]
      exact ih predictive.2 trees
  -- the reader's loop counts rounds, but enough of them are as good as any number
  | done _ body unseen =>
      simp only [isPredictive, Bool.and_eq_true, Bool.not_eq_true'] at predictive
      rw [read_loop_eq predictive.1.1.1 predictive.2, Reading.sees_mk,
        if_neg (Bool.eq_false_iff.1 unseen)]
      rfl
  | more seen _ _ ih₁ ih₂ =>
      have looped := predictive
      simp only [isPredictive, Bool.and_eq_true, Bool.not_eq_true'] at predictive
      rw [read_loop_eq predictive.1.1.1 predictive.2, Reading.sees_mk, if_pos seen,
        ih₁ predictive.2]
      exact (ih₂ looped _).trans (by simp)
  | nested _ ih =>
      rw [read_nested_succ]
      exact ih (Grammar.isPredictive_body _) trees

/-- A failing run is the reader's. -/
theorem Fails.read {s : Scan} {failure : Failure} (h : Fails levels rule s failure)
    (predictive : rule.isPredictive follow = true) (trees : List Tree) :
    rule.read levels ⟨s, trees⟩ = .error failure := by
  induction h generalizing follow trees with
  | cut _ admitted =>
      rw [read_token, Reading.take, if_pos (by exact admitted)]
      rfl
  | missing _ unseen =>
      rw [read_token, Reading.take, Reading.sees_mk, if_neg (Bool.eq_false_iff.1 unseen)]
      rfl
  | refuse => exact read_refuse _ _ _
  | first second _ ih =>
      simp only [isPredictive, Bool.and_eq_true] at predictive
      rw [read_seq, ih predictive.1]
      rfl
  | second reads _ ih =>
      simp only [isPredictive, Bool.and_eq_true] at predictive
      rw [read_seq, reads.read predictive.1]
      exact ih predictive.2 _
  | element phrase _ ih =>
      rw [read_element, Reading.enclose, ih predictive]
      rfl
  | yes _ seen _ ih =>
      simp only [isPredictive, Bool.and_eq_true] at predictive
      rw [read_branch, Reading.sees_mk, if_pos seen]
      exact ih predictive.1.2 trees
  | no _ unseen _ ih =>
      simp only [isPredictive, Bool.and_eq_true] at predictive
      rw [read_branch, Reading.sees_mk, if_neg (Bool.eq_false_iff.1 unseen)]
      exact ih predictive.2 trees
  | round seen _ ih =>
      simp only [isPredictive, Bool.and_eq_true, Bool.not_eq_true'] at predictive
      rw [read_loop_eq predictive.1.1.1 predictive.2, Reading.sees_mk, if_pos seen,
        ih predictive.2]
      rfl
  | later seen reads _ ih =>
      have looped := predictive
      simp only [isPredictive, Bool.and_eq_true, Bool.not_eq_true'] at predictive
      rw [read_loop_eq predictive.1.1.1 predictive.2, Reading.sees_mk, if_pos seen,
        reads.read predictive.2]
      exact ih looped _
  | tooDeep phrase s => exact read_nested_zero _ _
  | nested _ ih =>
      rw [read_nested_succ]
      exact ih (Grammar.isPredictive_body _) trees

/-- The reader succeeds exactly in the successful runs. -/
theorem read_eq_ok_iff (predictive : rule.isPredictive follow = true) {r r' : Reading} :
    rule.read levels r = .ok r' ↔
      ∃ row, r'.trees = row.reverse ++ r.trees ∧ Reads levels rule r.ahead row r'.ahead := by
  constructor
  · intro answer
    have outcome := outcome_read levels rule predictive r
    rwa [answer] at outcome
  · rintro ⟨row, trees, reads⟩
    have answer := reads.read predictive r.trees
    rwa [← trees] at answer

/-- The reader fails exactly in the failing runs. -/
theorem read_eq_error_iff (predictive : rule.isPredictive follow = true) {r : Reading}
    {failure : Failure} :
    rule.read levels r = .error failure ↔ Fails levels rule r.ahead failure := by
  constructor
  · intro answer
    have outcome := outcome_read levels rule predictive r
    rwa [answer] at outcome
  · intro fails
    exact fails.read predictive r.trees

end Rule

end JackSyntax
