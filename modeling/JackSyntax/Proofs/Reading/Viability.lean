/-
**A failing run could have gone on.**

When a reading fails, the tokens it has consumed are the beginning of something that the rule
describes, and what it reports as missing could have come next.  Three things are needed of the
rule, and all three are checked by running a function on it: every part describes something, no
class is asked for under the name of another one, and where it would be, the lookahead is known to
belong to the class.

Main definitions:

* `Rule.Yields` — the token sequences of the rows that a rule describes;
* `Rule.isProductive` — whether a rule is sure to describe some row;
* `Terminal.isHonest`, `Rule.isHonest` — what is reported as missing may come next.

Main results:

* `Rule.exists_yields` — a productive rule describes a row;
* `Rule.Fails.viable` — **the consumed tokens and whatever was asked for can be continued**;
* `Grammar.isHonest_body`, `Grammar.isHonest_classBody` — the grammar passes the check.
-/

import JackSyntax.Proofs.Grammar.Agreement
import JackSyntax.Proofs.Reading.Completeness

set_option relaxedAutoImplicit false
set_option autoImplicit false

namespace JackSyntax

open JackSyntax.Tree

/-! ### The token sequences of a rule -/

namespace Rule

/-- The tokens are the leaves of a row that the rule describes, with any number of levels. -/
def Yields (rule : Rule) (tokens : List Token) : Prop :=
  ∃ levels row, Describes levels rule row ∧ tokensAll row = tokens

namespace Yields

variable {first second body : Rule} {terminal : Terminal} {tokens tokens' : List Token}

theorem seq (h₁ : first.Yields tokens) (h₂ : second.Yields tokens') :
    (Rule.seq first second).Yields (tokens ++ tokens') := by
  obtain ⟨levels₁, row₁, d₁, rfl⟩ := h₁
  obtain ⟨levels₂, row₂, d₂, rfl⟩ := h₂
  exact ⟨max levels₁ levels₂, row₁ ++ row₂,
    .seq (d₁.mono (Nat.le_max_left ..)) (d₂.mono (Nat.le_max_right ..)), by simp⟩

theorem more (h₁ : body.Yields tokens) (h₂ : (Rule.loop terminal body).Yields tokens') :
    (Rule.loop terminal body).Yields (tokens ++ tokens') := by
  obtain ⟨levels₁, row₁, d₁, rfl⟩ := h₁
  obtain ⟨levels₂, row₂, d₂, rfl⟩ := h₂
  exact ⟨max levels₁ levels₂, row₁ ++ row₂,
    .more (d₁.mono (Nat.le_max_left ..)) (d₂.mono (Nat.le_max_right ..)), by simp⟩

theorem done (terminal : Terminal) (body : Rule) : (Rule.loop terminal body).Yields [] :=
  ⟨0, [], .done 0 terminal body, rfl⟩

theorem token {token : Token} (admitted : terminal.admits token = true) :
    (Rule.token terminal).Yields [token] :=
  ⟨0, [.leaf token], .token 0 admitted, by simp⟩

theorem element (phrase : Phrase) (h : body.Yields tokens) :
    (Rule.element phrase body).Yields tokens := by
  obtain ⟨levels, row, d, rfl⟩ := h
  exact ⟨levels, [.node phrase row], .element phrase d, by simp⟩

theorem yes (terminal : Terminal) (second : Rule) (h : first.Yields tokens) :
    (Rule.branch terminal first second).Yields tokens := by
  obtain ⟨levels, row, d, same⟩ := h
  exact ⟨levels, row, .yes terminal second d, same⟩

theorem no (terminal : Terminal) (first : Rule) (h : second.Yields tokens) :
    (Rule.branch terminal first second).Yields tokens := by
  obtain ⟨levels, row, d, same⟩ := h
  exact ⟨levels, row, .no terminal first d, same⟩

theorem nested {phrase : Recursive} (h : (Grammar.body phrase).Yields tokens) :
    (Rule.nested phrase).Yields tokens := by
  obtain ⟨levels, row, d, same⟩ := h
  exact ⟨levels + 1, row, .nested d, same⟩

end Yields

theorem Reads.yields {levels : Nat} {rule : Rule} {s s' : Scan} {row : List Tree}
    (h : Reads levels rule s row s') :
    ∃ passed, s = s'.prepend passed ∧ rule.Yields (passed.map Located.item) := by
  obtain ⟨passed, rfl, leaves⟩ := h.consumes
  exact ⟨passed, rfl, levels, row, h.describes, leaves⟩

/-! ### Every part describes something -/

/-- Whether a rule is sure to describe some row.  Recursive phrases do. -/
def isProductive : Rule → Bool
  | .empty => true
  | .token _ => true
  | .refuse _ => false
  | .seq first second => first.isProductive && second.isProductive
  | .element _ body => body.isProductive
  | .branch _ yes no => yes.isProductive || no.isProductive
  | .loop _ _ => true
  | .nested _ => true

/-- No class of tokens is empty. -/
theorem exists_admits (terminal : Terminal) : ∃ token, terminal.admits token = true := by
  cases terminal with
  | keyword word => exact ⟨.keyword word, beq_self_eq_true word⟩
  | symbol character => exact ⟨.symbol character, beq_self_eq_true character⟩
  | identifier | type | returnType | term => exact ⟨.identifier "x", rfl⟩
  | classVarKind => exact ⟨.keyword .static, rfl⟩
  | subroutineKind => exact ⟨.keyword .function, rfl⟩
  | statement => exact ⟨.keyword .«return», rfl⟩
  | constant => exact ⟨.integerConstant 0, rfl⟩
  | operator | unaryOperator => exact ⟨.symbol '-', by decide +kernel⟩

/-- A variable is a term, and a row of statements may be empty. -/
theorem nested_yields (phrase : Recursive) : ∃ tokens, (Rule.nested phrase).Yields tokens := by
  cases phrase with
  | statements => exact ⟨[], .nested (.element .statements (.done .statement Grammar.statement))⟩
  | term =>
      have variable_ :
          (Rule.seq Rule.identifier Grammar.nameTail).Yields ([.identifier "x"] ++ []) :=
        .seq (.token rfl) (.no _ _ (.no _ _ (.no _ _ ⟨0, [], .empty 0, rfl⟩)))
      exact ⟨_, .nested (.element .term (.yes .identifier _ variable_))⟩

/-- A productive rule describes a row. -/
theorem exists_yields (rule : Rule) (productive : rule.isProductive = true) :
    ∃ tokens, rule.Yields tokens := by
  induction rule with
  | empty => exact ⟨[], 0, [], .empty 0, rfl⟩
  | token terminal =>
      obtain ⟨token, admitted⟩ := exists_admits terminal
      exact ⟨_, .token admitted⟩
  | refuse terminal => cases productive
  | seq first second ih₁ ih₂ =>
      simp only [isProductive, Bool.and_eq_true] at productive
      obtain ⟨tokens₁, h₁⟩ := ih₁ productive.1
      obtain ⟨tokens₂, h₂⟩ := ih₂ productive.2
      exact ⟨_, .seq h₁ h₂⟩
  | element phrase body ih =>
      obtain ⟨tokens, h⟩ := ih productive
      exact ⟨tokens, .element phrase h⟩
  | branch terminal yes no ih₁ ih₂ =>
      simp only [isProductive, Bool.or_eq_true] at productive
      rcases productive with productive | productive
      · obtain ⟨tokens, h⟩ := ih₁ productive
        exact ⟨tokens, .yes terminal no h⟩
      · obtain ⟨tokens, h⟩ := ih₂ productive
        exact ⟨tokens, .no terminal yes h⟩
  | loop terminal body => exact ⟨[], .done terminal body⟩
  | nested phrase => exact nested_yields phrase

end Rule

/-! ### What is asked for may come next -/

/-- Whether every token that a diagnostic asks for in the name of a class belongs to the class. -/
def Terminal.isHonest : Terminal → Bool
  | .term => false
  | .constant => false
  | _ => true

theorem Terminal.admits_of_agree {terminal : Terminal} {e : Ebnf}
    (agree : ∀ levels, Agree levels (.token terminal) e) {token : Token} (begins : e.Begins token) :
    terminal.admits token = true := by
  obtain ⟨row, rest, derives, leaves⟩ := begins
  have describes := (agree (nestingAll row) row).2 ⟨derives, Nat.le_refl _⟩
  obtain ⟨token', admitted, rfl⟩ := Rule.Describes.token_iff.1 describes
  obtain ⟨rfl, -⟩ : token' = token ∧ [] = rest := by simpa using leaves
  exact admitted

theorem Terminal.admits_of_kinds {terminal terminal' : Terminal} {token : Token}
    (admitted : terminal.admits token = true) (subset : terminal.kinds ⊆ terminal'.kinds) :
    terminal'.admits token = true :=
  (terminal'.admits_iff token).2 (subset ((terminal.admits_iff token).1 admitted))

theorem Terminal.admits_of_begins {terminal : Terminal} (honest : terminal.isHonest = true)
    {e : Ebnf} (asked : terminal.expected.construct? = some e) {token : Token}
    (begins : e.Begins token) : terminal.admits token = true := by
  cases terminal with
  | keyword word =>
      cases asked
      exact admits_of_agree (fun levels => agree_keyword levels word) begins
  | symbol character =>
      cases asked
      exact admits_of_agree (fun levels => agree_symbol levels character) begins
  | identifier =>
      cases asked
      exact admits_of_agree agree_identifier begins
  | type =>
      cases asked
      exact admits_of_agree (fun _ => agree_type) begins
  | returnType =>
      cases asked
      exact admits_of_agree (fun _ => agree_returnType) begins
  | classVarKind =>
      cases asked
      exact admits_of_kinds (admits_of_agree (fun levels => agree_keyword levels .static) begins)
        (by decide)
  | subroutineKind =>
      cases asked
      exact admits_of_kinds
        (admits_of_agree (fun levels => agree_keyword levels .constructor) begins)
        (by decide)
  | statement =>
      cases asked
      exact admits_of_kinds (admits_of_agree (fun levels => agree_keyword levels .«let») begins)
        (by decide)
  | term | constant => cases honest
  | operator =>
      cases asked
      exact admits_of_kinds (admits_of_agree (fun levels => agree_symbol levels '+') begins)
        (by decide +kernel)
  | unaryOperator =>
      cases asked
      exact admits_of_kinds (admits_of_agree (fun levels => agree_symbol levels '-') begins)
        (by decide +kernel)

/-- What is known of the lookahead where a recursive phrase is entered. -/
def Recursive.entry : Recursive → Option (List Kind)
  | .term => some Terminal.term.kinds
  | .statements => none

namespace Rule

/-- A term, or the refusal of anything that begins none. -/
def isTermOrRefusal : Rule → Rule → Bool
  | .nested .term, .refuse .term => true
  | _, _ => false

/-- Where a class of tokens is asked for, either it is honest or the lookahead is known to belong to
it; and whatever remains of the rule behind a failure can be completed.  `known` are the kinds that
the lookahead can have, if anything is known. -/
def isHonest : Option (List Kind) → Rule → Bool
  | _, .empty => true
  | known, .token terminal => terminal.isHonest || known.any (·.all terminal.kinds.contains)
  | _, .refuse _ => false
  | known, .seq first second => isHonest known first && isHonest none second && second.isProductive
  | known, .element _ body => isHonest known body
  | known, .branch terminal yes no =>
      isHonest (some terminal.kinds) yes && (isTermOrRefusal yes no ||
        isHonest (known.map (·.filter fun kind => !terminal.kinds.contains kind)) no)
  | _, .loop terminal body => isHonest (some terminal.kinds) body
  | known, .nested phrase => phrase.entry.all fun required => known.any (·.all required.contains)

end Rule

namespace Grammar

theorem isHonest_body (phrase : Recursive) : (body phrase).isHonest phrase.entry = true := by
  cases phrase <;> decide +kernel

theorem isHonest_classBody : classBody.isHonest none = true := by decide +kernel

end Grammar

/-- What is known is true of the lookahead. -/
def Scan.Knows (s : Scan) (known : Option (List Kind)) : Prop :=
  ∀ kinds, known = some kinds → ∃ kind ∈ kinds, s.lookaheadKind = some kind

namespace Scan

variable {s : Scan} {terminal : Terminal}

theorem knows_none : s.Knows none := by
  intro kinds impossible
  cases impossible

theorem knows_of_sees (seen : s.sees terminal = true) : s.Knows (some terminal.kinds) := by
  intro kinds same
  obtain rfl := Option.some.inj same
  have admitted := (s.sees_iff terminal).1 seen
  cases kind : s.lookaheadKind with
  | none =>
      rw [kind] at admitted
      cases admitted
  | some kind' =>
      rw [kind, Terminal.admitsKind_some] at admitted
      exact ⟨kind', admitted, rfl⟩

theorem knows_filter {known : Option (List Kind)} (knows : s.Knows known)
    (unseen : s.sees terminal = false) :
    s.Knows (known.map (·.filter fun kind => !terminal.kinds.contains kind)) := by
  rintro _ same
  obtain ⟨kinds, rfl, rfl⟩ := Option.map_eq_some_iff.1 same
  obtain ⟨kind, listed, ahead⟩ := knows kinds rfl
  refine ⟨kind, List.mem_filter.2 ⟨listed, ?_⟩, ahead⟩
  have refused := mt (s.sees_iff terminal).2 (Bool.eq_false_iff.1 unseen)
  rw [ahead, Terminal.admitsKind_some] at refused
  simpa using refused

/-- A weaker knowledge. -/
theorem Knows.all {known : Option (List Kind)} (knows : s.Knows known) {kinds : List Kind}
    (subset : known.any (·.all kinds.contains) = true) :
    ∃ kind ∈ kinds, s.lookaheadKind = some kind := by
  obtain ⟨kinds', rfl, subset⟩ := (Option.any_eq_true ..).1 subset
  obtain ⟨kind, listed, ahead⟩ := knows kinds' rfl
  have covered := List.all_eq_true.1 subset kind listed
  exact ⟨kind, List.contains_iff_mem.1 covered, ahead⟩

end Scan

/-! ### Failing runs -/

namespace Rule

/-- The tokens, and the tokens followed by anything that a fault asks for, can be continued to
tokens of the rule. -/
def Continues (rule : Rule) (tokens : List Token) (fault : Fault) : Prop :=
  (∃ rest, rule.Yields (tokens ++ rest)) ∧
    ∀ expected found, fault = .unexpected expected found → ∀ e, expected.construct? = some e →
      ∀ token, e.Begins token → ∃ rest, rule.Yields (tokens ++ token :: rest)

/-- What can be continued inside a part of a rule can be continued in the rule. -/
theorem Continues.imp {part rule : Rule} {tokens : List Token} {fault : Fault}
    (h : Continues part tokens fault) (before after : List Token)
    (put : ∀ tokens, part.Yields tokens → rule.Yields (before ++ tokens ++ after)) :
    Continues rule (before ++ tokens) fault := by
  constructor
  · obtain ⟨rest, yields⟩ := h.1
    exact ⟨rest ++ after, by simpa using put _ yields⟩
  · intro expected found same e asked token begins
    obtain ⟨rest, yields⟩ := h.2 expected found same e asked token begins
    exact ⟨rest ++ after, by simpa using put _ yields⟩

/-- A rule is continued like a part that describes some of its rows. -/
theorem Continues.mono {part rule : Rule} {tokens : List Token} {fault : Fault}
    (h : Continues part tokens fault) (put : ∀ tokens, part.Yields tokens → rule.Yields tokens) :
    Continues rule tokens fault :=
  h.imp [] [] fun tokens yields => by simpa using put tokens yields

/-- Where a class is missing, one of its tokens can come next. -/
theorem continues_token {terminal : Terminal} (honest : terminal.isHonest = true)
    (found : Option Token) :
    Continues (.token terminal) [] (.unexpected terminal.expected found) := by
  constructor
  · obtain ⟨token, admitted⟩ := exists_admits terminal
    exact ⟨[token], .token admitted⟩
  · intro expected found' same e asked token begins
    cases same
    exact ⟨[], .token (Terminal.admits_of_begins honest asked begins)⟩

/-- Where a term is missing, one can come next. -/
theorem continues_term (found : Option Token) :
    Continues (.nested .term) [] (.unexpected .term found) := by
  constructor
  · exact nested_yields .term
  · intro expected found' same e asked token begins
    cases same
    cases asked
    obtain ⟨row, rest, derives, leaves⟩ := begins
    exact ⟨rest, nestingAll row, row, (agree_term _ row).2 ⟨derives, Nat.le_refl _⟩, leaves⟩

/-- When a reading fails, the consumed tokens can be continued, and so they can with any token that
was asked for. -/
theorem Fails.viable {levels : Nat} {rule : Rule} {s : Scan} {failure : Failure}
    (h : Fails levels rule s failure) {known : Option (List Kind)}
    (honest : rule.isHonest known = true) (knows : s.Knows known) :
    ∃ passed, s = failure.ahead.prepend passed ∧
      Continues rule (passed.map Located.item) failure.fault := by
  induction h generalizing known with
  | @cut _ _ token _ admitted =>
      refine ⟨[token], rfl, ⟨[], .token admitted⟩, ?_⟩
      intro _ _ impossible
      cases impossible
  | @missing _ terminal s unseen =>
      simp only [isHonest, Bool.or_eq_true] at honest
      rcases honest with honest | covered
      · exact ⟨[], rfl, continues_token honest _⟩
      · -- the lookahead is known to belong to the class, so nothing is missing
        obtain ⟨kind, listed, ahead⟩ := knows.all covered
        have seen := (s.sees_iff terminal).2 (by simpa [ahead] using listed)
        rw [unseen] at seen
        cases seen
  | refuse => cases honest
  | @first _ first second _ _ _ ih =>
      simp only [isHonest, Bool.and_eq_true] at honest
      obtain ⟨passed, same, continues⟩ := ih honest.1.1 knows
      obtain ⟨tokens, yields⟩ := exists_yields second honest.2
      exact ⟨passed, same, continues.imp [] tokens fun _ yields' => yields'.seq yields⟩
  | second reads _ ih =>
      simp only [isHonest, Bool.and_eq_true] at honest
      -- nothing is known of the lookahead behind the first part
      obtain ⟨passed₁, rfl, yields⟩ := reads.yields
      obtain ⟨passed₂, rfl, continues⟩ := ih honest.1.2 Scan.knows_none
      refine ⟨passed₁ ++ passed₂, (Scan.prepend_append ..).symm, ?_⟩
      rw [List.map_append]
      exact continues.imp _ [] fun _ yields' => by simpa using yields.seq yields'
  | element phrase _ ih =>
      obtain ⟨passed, same, continues⟩ := ih honest knows
      exact ⟨passed, same, continues.mono fun _ => .element phrase⟩
  | @yes _ terminal _ no _ _ seen _ ih =>
      simp only [isHonest, Bool.and_eq_true] at honest
      obtain ⟨passed, same, continues⟩ := ih honest.1 (Scan.knows_of_sees seen)
      exact ⟨passed, same, continues.mono fun _ => .yes terminal no⟩
  | @no _ terminal yes no _ _ unseen fails ih =>
      simp only [isHonest, Bool.and_eq_true, Bool.or_eq_true] at honest
      rcases honest.2 with refusal | honest
      · -- a term was asked for and nothing is consumed, so a term can still come
        obtain ⟨rfl, rfl⟩ : yes = .nested .term ∧ no = .refuse .term := by
          unfold isTermOrRefusal at refusal
          split at refusal <;> simp_all
        cases fails
        exact ⟨[], rfl, (continues_term _).mono fun _ => .yes terminal _⟩
      · obtain ⟨passed, same, continues⟩ := ih honest (Scan.knows_filter knows unseen)
        exact ⟨passed, same, continues.mono fun _ => .no terminal yes⟩
  | @round _ terminal body _ _ seen _ ih =>
      obtain ⟨passed, same, continues⟩ := ih honest (Scan.knows_of_sees seen)
      exact ⟨passed, same, continues.imp [] [] fun _ yields => yields.more (.done terminal body)⟩
  | @later _ terminal body _ _ _ _ seen reads _ ih =>
      -- the failure lies in a later round: the rounds before it stay as they were read
      have looped : (Rule.loop terminal body).isHonest none = true := honest
      obtain ⟨passed₁, rfl, yields⟩ := reads.yields
      obtain ⟨passed₂, rfl, continues⟩ := ih looped Scan.knows_none
      refine ⟨passed₁ ++ passed₂, (Scan.prepend_append ..).symm, ?_⟩
      rw [List.map_append]
      exact continues.imp _ [] fun _ yields' => by simpa using yields.more yields'
  | tooDeep phrase s =>
      refine ⟨[], rfl, nested_yields phrase, ?_⟩
      intro _ _ impossible
      cases impossible
  | @nested _ phrase s _ _ ih =>
      have entered : s.Knows phrase.entry := by
        intro kinds same
        rw [isHonest, same] at honest
        exact knows.all honest
      obtain ⟨passed, same, continues⟩ := ih (Grammar.isHonest_body phrase) entered
      exact ⟨passed, same, continues.mono fun _ => .nested⟩

end Rule

end JackSyntax
