import Rulebook.Proofs.Conservation

/-!
# Where parentheses are wrong

Tokens are arranged if and only if their parentheses are balanced. If they are not, the error is at
the first parenthesis that is closed without having been opened, or, if there is none, at the last
one that is opened and never closed (`Postfix.ofTokens_eq_error_iff`). Two parentheses belong
together if what stands between them is balanced.

Connectives and parentheses wait on the same stack. The parentheses among them are always the ones
that the tokens read so far leave open, with the innermost on top (`Token.Leaves`): this is kept by
every token, and tells which error there is when a token or the end of the text cannot be read.
-/

namespace Rulebook

namespace Token

/-! ## Balance -/

namespace Kind.Closes

variable {m n : Nat} {xs ys : List Kind}

/-- Of two rows, one behind the other, each closes what it closes alone. -/
theorem append (hxs : Closes m xs) (hys : Closes n ys) : Closes (m + n) (xs ++ ys) := by
  induction hxs with
  | nil => rwa [Nat.zero_add]
  | condition _ ih => exact .condition ih
  | connective _ ih => exact .connective ih
  | openParen _ ih =>
    rw [Nat.add_right_comm] at ih
    exact .openParen ih
  | closeParen _ ih =>
    rw [Nat.add_right_comm]
    exact .closeParen ih

/-- What a row in front does not close is closed behind it. -/
theorem of_append (hxs : Closes m xs) (h : Closes n (xs ++ ys)) :
    ∃ k, n = m + k ∧ Closes k ys := by
  induction hxs generalizing n with
  | nil => exact ⟨n, (Nat.zero_add n).symm, h⟩
  | condition _ ih =>
    cases h with
    | condition h => exact ih h
  | connective _ ih =>
    cases h with
    | connective h => exact ih h
  | openParen _ ih =>
    cases h with
    | openParen h =>
      obtain ⟨k, hk, hys⟩ := ih h
      exact ⟨k, by omega, hys⟩
  | closeParen _ ih =>
    cases h with
    | closeParen h =>
      obtain ⟨k, hk, hys⟩ := ih h
      exact ⟨k, by omega, hys⟩

/-- The rest of a row closes what is then open. -/
theorem exists_of_append (h : Closes n (xs ++ ys)) : ∃ m, Closes m ys := by
  induction xs generalizing n with
  | nil => exact ⟨n, h⟩
  | cons k xs ih =>
    cases h with
    | condition h => exact ih h
    | connective h => exact ih h
    | openParen h => exact ih h
    | closeParen h => exact ih h

/-- A row closes only one number of parentheses. -/
theorem unique (h : Closes m xs) (h' : Closes n xs) : n = m := by
  rw [← List.append_nil xs] at h'
  obtain ⟨k, rfl, hk⟩ := h.of_append h'
  cases hk
  rfl

/-- A row that closes more than `m` parentheses closes `m` of them before it closes the next. -/
theorem exists_closeParen (h : Closes n xs) (hm : m < n) :
    ∃ inner rest, xs = inner ++ .closeParen :: rest ∧ Closes m inner := by
  induction h generalizing m with
  | nil => cases hm
  | condition _ ih =>
    obtain ⟨inner, rest, rfl, hinner⟩ := ih hm
    exact ⟨_ :: inner, rest, rfl, .condition hinner⟩
  | connective _ ih =>
    obtain ⟨inner, rest, rfl, hinner⟩ := ih hm
    exact ⟨_ :: inner, rest, rfl, .connective hinner⟩
  | openParen _ ih =>
    obtain ⟨inner, rest, rfl, hinner⟩ := ih (Nat.succ_lt_succ hm)
    exact ⟨_ :: inner, rest, rfl, .openParen hinner⟩
  | closeParen _ ih =>
    cases m with
    | zero => exact ⟨[], _, rfl, .nil⟩
    | succ m =>
      obtain ⟨inner, rest, rfl, hinner⟩ := ih (Nat.lt_of_succ_lt_succ hm)
      exact ⟨_ :: inner, rest, rfl, .closeParen hinner⟩

end Kind.Closes

/-- The parentheses of these tokens are balanced. -/
def Balanced (ts : List Token) : Prop := Kind.Closes 0 (ts.map (·.kind))

/-- A parenthesis that is closed right behind these tokens has been opened in them. -/
def Opened (before : List Token) : Prop :=
  ∃ outer p inner, before = outer ++ ⟨.openParen, p⟩ :: inner ∧ Balanced inner

/-- A parenthesis that is opened right in front of these tokens is closed in them. -/
def Closed (behind : List Token) : Prop :=
  ∃ inner p outer, behind = inner ++ ⟨.closeParen, p⟩ :: outer ∧ Balanced inner

/-- Every parenthesis that is closed has been opened. -/
def AllOpened (ts : List Token) : Prop :=
  ∀ before p, before ++ [⟨.closeParen, p⟩] <+: ts → Opened before

/-- Every parenthesis that is opened is closed. -/
def AllClosed (ts : List Token) : Prop :=
  ∀ p behind, ⟨.openParen, p⟩ :: behind <:+ ts → Closed behind

/-- The first parenthesis that is closed without having been opened is at this position. -/
def FirstUnopened (ts : List Token) (p : Nat) : Prop :=
  ∃ before, before ++ [⟨.closeParen, p⟩] <+: ts ∧ ¬Opened before ∧ AllOpened before

/-- The last parenthesis that is opened and never closed is at this position. -/
def LastUnclosed (ts : List Token) (p : Nat) : Prop :=
  ∃ behind, ⟨.openParen, p⟩ :: behind <:+ ts ∧ ¬Closed behind ∧ AllClosed behind

/-- The parentheses are wrong at this position: one is closed there that has not been opened, or
all are opened and this one is not closed. -/
def WrongAt (ts : List Token) (p : Nat) : Prop :=
  FirstUnopened ts p ∨ AllOpened ts ∧ LastUnclosed ts p

theorem Balanced.append {xs ys : List Token} (hxs : Balanced xs) (hys : Balanced ys) :
    Balanced (xs ++ ys) := by
  unfold Balanced
  rw [List.map_append]
  exact Kind.Closes.append hxs hys

/-- Between two parentheses that belong together balanced tokens stand. -/
theorem Balanced.group {inner : List Token} (h : Balanced inner) (p q : Nat) :
    Balanced (⟨.openParen, p⟩ :: (inner ++ [⟨.closeParen, q⟩])) := by
  have hclose : Kind.Closes 1 [.closeParen] := .closeParen .nil
  have hrest : Kind.Closes (0 + 1) (inner.map (·.kind) ++ [.closeParen]) :=
    Kind.Closes.append h hclose
  unfold Balanced
  rw [List.map_cons, List.map_append]
  exact .openParen hrest

/-- Balanced tokens have opened nothing that is closed behind them. -/
theorem Balanced.not_opened {before : List Token} (h : Balanced before) : ¬Opened before := by
  rintro ⟨outer, p, inner, rfl, hinner⟩
  unfold Balanced at h
  rw [List.map_append, List.map_cons] at h
  obtain ⟨m, hm⟩ := h.exists_of_append
  cases hm with
  | openParen hm => cases Kind.Closes.unique hinner hm

/-- Balanced tokens close nothing that is opened in front of them. -/
theorem Balanced.not_closed {behind : List Token} (h : Balanced behind) : ¬Closed behind := by
  rintro ⟨inner, p, outer, rfl, hinner⟩
  unfold Balanced at h
  rw [List.map_append, List.map_cons] at h
  obtain ⟨k, hk, hrest⟩ := Kind.Closes.of_append hinner h
  cases hrest
  cases hk

/-- Of balanced tokens every parenthesis that is opened is closed. -/
theorem Balanced.allClosed {ts : List Token} (h : Balanced ts) : AllClosed ts := by
  rintro p behind ⟨front, rfl⟩
  unfold Balanced at h
  rw [List.map_append, List.map_cons] at h
  obtain ⟨m, hm⟩ := h.exists_of_append
  cases hm with
  | openParen hm =>
    obtain ⟨inner, rest, heq, hinner⟩ := hm.exists_closeParen (Nat.succ_pos m)
    obtain ⟨inner', rest', rfl, rfl, hrest⟩ := List.map_eq_append_iff.1 heq
    obtain ⟨⟨kind, q⟩, outer, rfl, hkind, -⟩ := List.map_eq_cons_iff.1 hrest
    cases hkind
    exact ⟨inner', q, outer, rfl, hinner⟩

/-- One more token keeps that all parentheses are opened, if it closes none or one that is open. -/
theorem AllOpened.concat {before : List Token} (h : AllOpened before) {t : Token}
    (ht : t.kind = .closeParen → Opened before) : AllOpened (before ++ [t]) := by
  intro front p hfront
  rcases List.prefix_concat_iff.1 hfront with heq | hfront
  · obtain ⟨rfl, rfl⟩ := List.append_inj' heq rfl |>.imp id List.singleton_inj.1
    exact ht rfl
  · exact h front p hfront

/-- There is no unopened parenthesis in front of the first one. -/
theorem eq_of_not_opened {before before' : List Token} {p q : Nat} (unopened : ¬Opened before)
    (opened : AllOpened before')
    (h : before ++ [⟨.closeParen, p⟩] <+: before' ++ [⟨.closeParen, q⟩]) : p = q := by
  rcases List.prefix_concat_iff.1 h with heq | hinside
  · cases (List.append_inj' heq rfl).2
    rfl
  · exact absurd (opened before p hinside) unopened

/-- There is no unclosed parenthesis behind the last one. -/
theorem eq_of_not_closed {behind behind' : List Token} {p q : Nat} (unclosed : ¬Closed behind)
    (closed : AllClosed behind')
    (h : ⟨.openParen, p⟩ :: behind <:+ ⟨.openParen, q⟩ :: behind') : p = q := by
  rcases List.suffix_cons_iff.1 h with heq | hinside
  · cases heq
    rfl
  · exact absurd (closed p behind hinside) unclosed

/-- There is only one first parenthesis that has not been opened. -/
theorem FirstUnopened.unique {ts : List Token} {p q : Nat} (hp : FirstUnopened ts p)
    (hq : FirstUnopened ts q) : p = q := by
  obtain ⟨before, hbefore, hunopened, hopened⟩ := hp
  obtain ⟨before', hbefore', hunopened', hopened'⟩ := hq
  rcases List.prefix_or_prefix_of_prefix hbefore hbefore' with hle | hle
  · exact eq_of_not_opened hunopened hopened' hle
  · exact (eq_of_not_opened hunopened' hopened hle).symm

/-- There is only one last parenthesis that is not closed. -/
theorem LastUnclosed.unique {ts : List Token} {p q : Nat} (hp : LastUnclosed ts p)
    (hq : LastUnclosed ts q) : p = q := by
  obtain ⟨behind, hbehind, hunclosed, hclosed⟩ := hp
  obtain ⟨behind', hbehind', hunclosed', hclosed'⟩ := hq
  rcases List.suffix_or_suffix_of_suffix hbehind hbehind' with hle | hle
  · exact eq_of_not_closed hunclosed hclosed' hle
  · exact (eq_of_not_closed hunclosed' hclosed hle).symm

/-- The parentheses are wrong at one position at most. -/
theorem WrongAt.unique {ts : List Token} {p q : Nat} (hp : WrongAt ts p) (hq : WrongAt ts q) :
    p = q := by
  have hfirst {p : Nat} (h : FirstUnopened ts p) : ¬AllOpened ts := by
    obtain ⟨before, hbefore, hunopened, -⟩ := h
    exact fun hopened => hunopened (hopened before p hbefore)
  rcases hp with hp | ⟨hopened, hp⟩
  · rcases hq with hq | ⟨hopened, -⟩
    · exact hp.unique hq
    · exact absurd hopened (hfirst hp)
  · rcases hq with hq | ⟨-, hq⟩
    · exact absurd hopened (hfirst hq)
    · exact hp.unique hq

/-! ## What is left open -/

/-- Tokens leave parentheses open at these positions, the innermost first. -/
inductive Leaves : List Token → List Nat → Prop
  | balanced {ts : List Token} (h : Balanced ts) : Leaves ts []
  | opened {ts inner : List Token} {p : Nat} {ps : List Nat} (h : Leaves ts ps)
      (hinner : Balanced inner) : Leaves (ts ++ ⟨.openParen, p⟩ :: inner) (p :: ps)

namespace Leaves

variable {ts : List Token} {ps : List Nat} {p : Nat}

/-- Balanced tokens leave open what was open. -/
theorem append (h : Leaves ts ps) {xs : List Token} (hxs : Balanced xs) : Leaves (ts ++ xs) ps := by
  cases h with
  | balanced h => exact .balanced (h.append hxs)
  | opened h hinner =>
    rw [List.append_assoc, List.cons_append]
    exact .opened h (hinner.append hxs)

/-- An opened parenthesis is the innermost that is open. -/
theorem openParen (h : Leaves ts ps) : Leaves (ts ++ [⟨.openParen, p⟩]) (p :: ps) :=
  .opened h .nil

/-- A closed parenthesis closes the innermost that is open. -/
theorem closeParen (h : Leaves ts (p :: ps)) (q : Nat) :
    Leaves (ts ++ [⟨.closeParen, q⟩]) ps := by
  cases h with
  | opened h hinner =>
    rw [List.append_assoc, List.cons_append]
    exact h.append (hinner.group p q)

/-- What is left open can be closed. -/
theorem isOpened (h : Leaves ts (p :: ps)) : Opened ts := by
  cases h with
  | opened h hinner => exact ⟨_, _, _, rfl, hinner⟩

/-- What is left open innermost is the last parenthesis that is not closed. -/
theorem lastUnclosed (h : Leaves ts (p :: ps)) : LastUnclosed ts p := by
  cases h with
  | opened h hinner =>
    exact ⟨_, List.suffix_append _ _, hinner.not_closed, hinner.allClosed⟩

/-- Tokens that leave something open are not balanced. -/
theorem not_balanced (h : Leaves ts (p :: ps)) : ¬Balanced ts := by
  obtain ⟨behind, hbehind, hunclosed, -⟩ := h.lastUnclosed
  exact fun hbalanced => hunclosed (hbalanced.allClosed p behind hbehind)

end Leaves

end Token

namespace Postfix

open Token

/-! ## The stack -/

/-- The position of the parenthesis that waits on a stack. -/
def Pending.opening? : Pending → Option Nat
  | .connective _ _ => none
  | .openParen position => some position

/-- The positions of the parentheses that wait on a stack, from its top to its bottom. -/
def Pending.openings (stack : List Pending) : List Nat := stack.filterMap opening?

/-- An arriving connective takes no parenthesis off the stack. -/
theorem openings_popTighter (precedence : Nat) (stack : List Pending) :
    Pending.openings (popTighter precedence stack).2 = Pending.openings stack := by
  fun_induction popTighter precedence stack with
  | case1 => rfl
  | case2 top position stack _ popped rest hpop ih =>
    rw [hpop] at ih
    exact ih
  | case3 => rfl

/-- The end of a group takes the innermost parenthesis off the stack, if there is one. -/
theorem openings_popGroup? (stack : List Pending) :
    match popGroup? stack with
    | none => Pending.openings stack = []
    | some (_, rest) => ∃ p, Pending.openings stack = p :: Pending.openings rest := by
  induction stack with
  | nil => rfl
  | cons top stack ih =>
    cases top with
    | openParen position => exact ⟨position, rfl⟩
    | connective k position =>
      rw [popGroup?]
      cases hpop : popGroup? stack with
      | none =>
        rw [hpop] at ih
        exact ih
      | some result =>
        rw [hpop] at ih
        exact ih

/-- The end of the text finds the innermost parenthesis on the stack, if there is one. -/
theorem drain_eq (stack : List Pending) :
    match Pending.openings stack with
    | [] => ∃ items, drain stack = .ok items
    | p :: _ => drain stack = .error (.unbalancedParenthesis p) := by
  induction stack with
  | nil => exact ⟨[], rfl⟩
  | cons top stack ih =>
    cases top with
    | openParen position => rfl
    | connective k position =>
      change (match Pending.openings stack with
        | [] => _
        | p :: _ => _)
      rw [drain]
      split at ih
      · obtain ⟨items, hdrain⟩ := ih
        exact ⟨_, by rw [hdrain]; rfl⟩
      · rw [ih]
        rfl

/-! ## What arranging finds -/

/-- What arranging tells of the parentheses of tokens. -/
inductive Finds (ts : List Token) : Except SyntaxError (List Postfix) → Prop
  | balanced {items : List Postfix} (h : Balanced ts) (opened : AllOpened ts) :
      Finds ts (.ok items)
  | wrong {p : Nat} (h : WrongAt ts p) (unbalanced : ¬Balanced ts) :
      Finds ts (.error (.unbalancedParenthesis p))

/-- It does not matter which items come in front. -/
theorem Finds.map {ts : List Token} {result : Except SyntaxError (List Postfix)}
    (h : Finds ts result) (f : List Postfix → List Postfix) : Finds ts (result.map f) := by
  cases h with
  | balanced h opened => exact .balanced h opened
  | wrong h unbalanced => exact .wrong h unbalanced

/-- Arranging finds the parentheses balanced or wrong somewhere, if those on the stack are the ones
that have been left open and all have been opened so far. -/
theorem finds_arrange {before ts : List Token} {stack : List Pending}
    (leaves : Leaves before (Pending.openings stack)) (opened : AllOpened before) :
    Finds (before ++ ts) (arrange stack ts) := by
  induction ts generalizing before stack with
  | nil =>
    have hdrain := drain_eq stack
    rw [List.append_nil, arrange]
    cases hopenings : Pending.openings stack with
    | nil =>
      rw [hopenings] at hdrain leaves
      obtain ⟨items, hitems⟩ := hdrain
      rw [hitems]
      cases leaves with
      | balanced h => exact .balanced h opened
    | cons p ps =>
      rw [hopenings] at hdrain leaves
      rw [hdrain]
      exact .wrong (.inr ⟨opened, leaves.lastUnclosed⟩) leaves.not_balanced
  | cons t ts ih =>
    rw [List.append_cons]
    obtain ⟨kind, position⟩ := t
    cases kind with
    | condition c =>
      have hleaves : Leaves (before ++ [⟨.condition c, position⟩]) (Pending.openings stack) :=
        leaves.append (.condition .nil)
      exact (ih hleaves (opened.concat (by rintro ⟨⟩))).map _
    | openParen => exact ih leaves.openParen (opened.concat (by rintro ⟨⟩))
    | connective k =>
      have hleaves : Leaves (before ++ [⟨.connective k, position⟩])
          (Pending.openings (.connective k position :: (popTighter k.precedence stack).2)) := by
        change Leaves _ (Pending.openings (popTighter k.precedence stack).2)
        rw [openings_popTighter]
        exact leaves.append (.connective .nil)
      exact (ih hleaves (opened.concat (by rintro ⟨⟩))).map _
    | closeParen =>
      have hpop := openings_popGroup? stack
      rw [arrange]
      cases hgroup : popGroup? stack with
      | none =>
        rw [hgroup] at hpop
        rw [hpop] at leaves
        cases leaves with
        | balanced h =>
          -- Nothing is open in front, so this is the first one that has not been opened.
          have hfirst : FirstUnopened (before ++ [⟨.closeParen, position⟩] ++ ts) position :=
            ⟨before, List.prefix_append _ _, h.not_opened, opened⟩
          rw [← List.append_cons] at hfirst ⊢
          exact .wrong (.inl hfirst) fun hbalanced =>
            hbalanced.not_closed ⟨before, position, ts, rfl, h⟩
      | some result =>
        obtain ⟨popped, rest⟩ := result
        rw [hgroup] at hpop
        obtain ⟨p, hp⟩ := hpop
        rw [hp] at leaves
        exact (ih (leaves.closeParen position) (opened.concat fun _ => leaves.isOpened)).map _

/-- Arranging the tokens of a rule finds the parentheses balanced or wrong somewhere. -/
theorem finds_ofTokens (ts : List Token) : Finds ts (ofTokens ts) := by
  have hstart : AllOpened [] := by
    intro before p h
    cases (List.append_eq_nil_iff.1 (List.prefix_nil.1 h)).2
  have hleaves : Leaves [] (Pending.openings []) := .balanced .nil
  exact finds_arrange hleaves hstart

/-- Tokens are refused exactly at the position where their parentheses are wrong. -/
theorem ofTokens_eq_error {ts : List Token} {e : SyntaxError} :
    ofTokens ts = .error e ↔ ∃ p, e = .unbalancedParenthesis p ∧ WrongAt ts p := by
  have hfinds := finds_ofTokens ts
  generalize ofTokens ts = result at hfinds
  cases hfinds with
  | balanced h opened =>
    constructor
    · intro h
      cases h
    · rintro ⟨p, -, ⟨before, hbefore, hunopened, -⟩ | ⟨-, behind, hbehind, hunclosed, -⟩⟩
      · exact absurd (opened before p hbefore) hunopened
      · exact absurd (h.allClosed p behind hbehind) hunclosed
  | wrong h =>
    constructor
    · rintro ⟨⟩
      exact ⟨_, rfl, h⟩
    · rintro ⟨p, rfl, hp⟩
      rw [h.unique hp]

/-- Tokens are refused exactly if their parentheses are not balanced. -/
theorem exists_ofTokens_eq_error {ts : List Token} :
    (∃ e, ofTokens ts = .error e) ↔ ¬Balanced ts := by
  have hfinds := finds_ofTokens ts
  generalize ofTokens ts = result at hfinds
  cases hfinds with
  | balanced h opened => simp [h]
  | wrong h unbalanced => simp [unbalanced]

end Postfix

/-! ## Compiling -/

namespace Tree

/-- Items that make no tree are not an error of parentheses. -/
theorem ofPostfix_ne (items : List Postfix) (p : Nat) :
    ofPostfix items ≠ .error (.unbalancedParenthesis p) := by
  intro h
  have hcomes := comesOf_ofPostfix items
  rw [h] at hcomes
  cases hcomes

end Tree

/-- What a text that has been cut into tokens comes to. -/
theorem compile_of_scan {source : String} {ts : List Token} (scanned : Token.scan source = .ok ts) :
    compile source = Postfix.ofTokens ts >>= Tree.ofPostfix := by
  rw [compile, scanned]
  rfl

open Token in
/-- Tokens are refused exactly if their parentheses are not balanced, and then at the position where
they are wrong. A text that is cut into these tokens fails there too, whatever else it lacks, and
with such an error for no other reason. -/
theorem Postfix.ofTokens_eq_error_iff (ts : List Token) :
    ((∃ e, ofTokens ts = .error e) ↔ ¬Balanced ts) ∧
      (∀ e, ofTokens ts = .error e ↔ ∃ p, e = .unbalancedParenthesis p ∧ WrongAt ts p) ∧
      ∀ source, scan source = .ok ts → ∀ p,
        compile source = .error (.unbalancedParenthesis p) ↔ WrongAt ts p := by
  refine ⟨exists_ofTokens_eq_error, fun e => ofTokens_eq_error, fun source scanned p => ?_⟩
  rw [compile_of_scan scanned]
  constructor
  · intro h
    cases harranged : ofTokens ts with
    | ok items =>
      rw [harranged] at h
      exact absurd h (Tree.ofPostfix_ne items p)
    | error e =>
      rw [harranged] at h
      cases h
      obtain ⟨_, ⟨⟩, hp⟩ := ofTokens_eq_error.1 harranged
      exact hp
  · intro h
    rw [ofTokens_eq_error.2 ⟨p, rfl, h⟩]
    rfl

open Token in
/-- A text that lacks an operand fails at its second group, which is not closed. -/
theorem Postfix.ofTokens_eq_error_iff_second_group :
    let source := "(a='x') AND ("
    let ts : List Token := [⟨.openParen, 0⟩, ⟨.condition ⟨"a", .eq, .text "x"⟩, 1⟩,
      ⟨.closeParen, 6⟩, ⟨.connective .and, 8⟩, ⟨.openParen, 12⟩]
    scan source = .ok ts ∧ ¬Balanced ts ∧ WrongAt ts 12 ∧
      compile source = .error (.unbalancedParenthesis 12) := by
  intro source ts
  have hscan : scan source = .ok ts := by decide +kernel +revert
  have harranged : ofTokens ts = .error (.unbalancedParenthesis 12) := rfl
  obtain ⟨hfails, herror, hcompile⟩ := ofTokens_eq_error_iff ts
  obtain ⟨_, ⟨⟩, hwrong⟩ := (herror _).1 harranged
  exact ⟨hscan, hfails.1 ⟨_, harranged⟩, hwrong, (hcompile source hscan 12).2 hwrong⟩

end Rulebook
