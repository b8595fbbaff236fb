import Rulebook.Proofs.Canonical
import Rulebook.Proofs.Doubles
import Rulebook.Proofs.Written
import Rulebook.Rule.Evaluate
import Rulebook.Rule.Wire

/-!
# Rules through JSON

What comes back when a rule is turned into JSON and read again. An operator comes back as the one
that its own text stands for, and a literal without the sign of a zero (`Tree.sent`); a literal that
is a NaN or an infinity has no JSON number, and the rule is refused (`Tree.ofJson_toJson`). A rule
without such literals whose operators have been read from texts comes back equal and evaluates
alike, and every rule that is read from JSON is one of these (`Tree.agrees_ofJson_toJson`).

The members of an object may come in the order in which they are written or in ascending order.
-/

namespace Rulebook

open Json (Mismatch)

/-! ## Literals -/

namespace Literal

/-- A text, or a number that is neither a NaN nor an infinity. -/
def isFinite : Literal → Bool
  | .number x => x.isFinite
  | .text _ => true

/-- The literal with a positive zero for a negative one. -/
def dropZeroSign : Literal → Literal
  | .number x => .number x.dropZeroSign
  | .text s => .text s

/-- The JSON value of a literal has no parts. -/
theorem cases_toJson (l : Literal) :
    l.toJson = .null ∨ (∃ n, l.toJson = .number n) ∨ ∃ s, l.toJson = .string s := by
  unfold toJson
  split
  · split
    · exact .inr (.inl ⟨_, rfl⟩)
    · split
      · exact .inr (.inl ⟨_, rfl⟩)
      · exact .inl rfl
  · exact .inr (.inr ⟨_, rfl⟩)

/-- A finite number without an integer to write it is not zero. -/
theorem ne_zero_of_whole?_eq_none {negative : Bool} {units : Nat} {h : Representable units}
    (hwhole : whole? (.finite negative units h) = none) : units ≠ 0 := by
  rintro rfl
  cases negative <;> simp [whole?, Double.whole?, Double.signed, wholeLimit] at hwhole

/-- The integer that a number is written as is the integer that it is. -/
theorem double_whole?_of_whole? {x : Double} {i : { i : Int // i.natAbs < wholeLimit }}
    (h : whole? x = some i) : x.whole? = some i.val := by
  unfold whole? at h
  split at h
  · next j hj =>
    split at h
    · cases h
      exact hj
    · cases h
  · cases h

/-- A literal that a rule text can have is finite. -/
theorem Written.isFinite {l : Literal} (h : l.Written) : l.isFinite = true := by
  cases l with
  | number x => exact h
  | text s => rfl

/-- A literal comes back from JSON without the sign of a zero, if it is finite. -/
theorem ofJson?_toJson (l : Literal) :
    ofJson? l.toJson = if l.isFinite then some l.dropZeroSign else none := by
  cases l with
  | text s => rfl
  | number x =>
    rw [toJson]
    split
    · next i hi hwhole =>
      -- An integer below the limit has at most 53 bits, and so no rounding changes it.
      have hx := double_whole?_of_whole? hwhole
      have hfinite : x.isFinite = true := by
        cases x with
        | finite => rfl
        | nan => cases hx
        | infinite => cases hx
      have hbits : i.natAbs ≤ Nat.pow 2 53 := Nat.le_of_lt (Nat.lt_trans hi (by decide))
      rw [isFinite, hfinite, if_pos rfl, dropZeroSign, ← Double.ofInt_of_whole? hx hbits]
      rfl
    · next hwhole =>
      cases x with
      | nan => rfl
      | infinite negative => rfl
      | finite negative units h =>
        -- Zero is written as an integer, and any other sign is kept.
        have hne := ne_zero_of_whole?_eq_none hwhole
        simp [Json.Number.ofDouble?, ofJson?, Json.Number.toDouble, isFinite, Double.isFinite,
          dropZeroSign, Double.dropZeroSign, hne]

/-- A literal that is read from JSON is finite. -/
theorem isFinite_of_ofJson? {v : Json} {l : Literal} (h : ofJson? v = some l) :
    l.isFinite = true := by
  unfold ofJson? at h
  split at h
  · next n =>
    cases h
    cases n with
    | integer i hi =>
      rw [isFinite, Json.Number.toDouble]
      exact Double.isFinite_ofInt hi
    | real negative units hunits => rfl
  · cases h
    rfl
  · cases h

/-- A finite literal equals itself without the sign of a zero. -/
theorem dropZeroSign_agrees {l : Literal} (h : l.isFinite = true) :
    l.dropZeroSign.agrees l = true := by
  cases l with
  | number x => exact Double.dropZeroSign_numEq h
  | text s => exact beq_self_eq_true s

/-- The text of a literal does not show the sign of a zero. -/
theorem chars_dropZeroSign (l : Literal) : l.dropZeroSign.chars = l.chars := by
  cases l with
  | text s => rfl
  | number x =>
    have hwhole : whole? x.dropZeroSign = whole? x := by
      rw [whole?, whole?, Double.whole?_dropZeroSign]
    rw [dropZeroSign, chars, chars, hwhole]
    split
    · rfl
    · next hnone =>
      cases x with
      | nan => rfl
      | infinite negative => rfl
      | finite negative units h =>
        have hne := ne_zero_of_whole?_eq_none hnone
        simp [Double.dropZeroSign, hne]

/-- A comparison does not see the sign of a zero literal. -/
theorem holds_dropZeroSign (c : Comparator) (v : Json) (l : Literal) :
    c.holds v l.dropZeroSign = c.holds v l := by
  cases l with
  | text s => rfl
  | number x =>
    -- All comparators go by equality or by order, and neither sees the sign.
    have hequals : v.looselyEquals (.number x.dropZeroSign) = v.looselyEquals (.number x) := by
      cases v with
      | bool b => exact Double.numEq_dropZeroSign _ x
      | number n => exact Double.numEq_dropZeroSign _ x
      | string s => exact Double.numEq_dropZeroSign _ x
      | null => rfl
      | array items => rfl
      | object members => rfl
    have horder : v.looseOrder? (.number x.dropZeroSign) = v.looseOrder? (.number x) := by
      cases v <;> simp only [Json.looseOrder?, Literal.asNumber, Double.compare?_dropZeroSign]
    cases c with
    | eq => exact hequals
    | unsupported symbol => rfl
    | _ => simp only [dropZeroSign, Comparator.holds, horder]

end Literal

/-! ## Operators -/

/-- A comparator that a text stands for is read back from its symbol. -/
theorem Comparator.ofSymbol_symbol_of_ofSymbol {symbol : String} {c : Comparator}
    (h : ofSymbol symbol = c) : ofSymbol c.symbol = c := by
  cases c with
  | unsupported symbol' =>
    -- An unsupported comparator is its own symbol, which is none of the others.
    have hsymbol : symbol = symbol' := by
      unfold ofSymbol at h
      split at h <;> cases h
      rfl
    rw [Comparator.symbol, ← hsymbol]
    exact hsymbol ▸ h
  | _ => rfl

/-- A connective that a text stands for is read back from its keyword. -/
theorem Connective.ofKeyword_keyword_of_ofKeyword {keyword : String} {k : Connective}
    (h : ofKeyword keyword = k) : ofKeyword k.keyword = k := by
  cases k with
  | unsupported keyword' =>
    have hkeyword : keyword = keyword' := by
      unfold ofKeyword at h
      split at h <;> cases h
      rfl
    rw [Connective.keyword, ← hkeyword]
    exact hkeyword ▸ h
  | _ => rfl

/-! ## Conditions -/

namespace Condition

/-- The condition that comes back from JSON. -/
def sent (c : Condition) : Condition :=
  ⟨c.field, .ofSymbol c.comparator.symbol, c.literal.dropZeroSign⟩

/-- The members of a condition are written in ascending order. -/
theorem canonical_toJson (c : Condition) : c.toJson.canonical = c.toJson := by
  have hliteral : c.literal.toJson.canonical = c.literal.toJson := by
    obtain h | ⟨n, h⟩ | ⟨s, h⟩ := c.literal.cases_toJson <;> rw [h] <;> rfl
  have hfirst : ¬ "operator" < "field" ∧ "operator" ≠ "field" := by decide
  have hsecond : ¬ "value" < "field" ∧ "value" ≠ "field" := by decide
  have hthird : ¬ "value" < "operator" ∧ "value" ≠ "operator" := by decide
  simp only [toJson, Json.canonical, Json.canonicalMembers, Json.ofMembers, Json.insertMember,
    List.foldl_cons, List.foldl_nil, hliteral, hfirst, hsecond, hthird, if_false]

/-- A condition comes back from JSON, if its literal is finite. -/
theorem ofJson_toJson (c : Condition) :
    ofJson c.toJson =
      if c.literal.isFinite then .ok c.sent else .error (.noAlternative "Literal") := by
  have hliteral := Literal.ofJson?_toJson c.literal
  -- The literal is the last member, and the only one that can be refused.
  cases hfinite : c.literal.isFinite with
  | true =>
    rw [hfinite, if_pos rfl] at hliteral
    simp [toJson, ofJson, ofMembers, Json.asText, literalOfJson, hliteral, bind, Except.bind,
      Parts.finish, sent]
  | false =>
    rw [hfinite, if_neg Bool.false_ne_true] at hliteral
    simp [toJson, ofJson, ofMembers, Json.asText, literalOfJson, hliteral, bind, Except.bind]

end Condition

/-! ## Trees -/

/-- A child that is an object is the node that the object describes. -/
theorem Wire.ofChild_object (members : List (String × Json)) :
    ofChild (.object members) = (ofJson (.object members)).map some := by
  rw [ofChild, ofJson]
  cases ofMembers ⟨none, none, none, none⟩ members with
  | error e => rfl
  | ok p =>
    simp only [bind, Except.bind]
    cases p.finish <;> rfl

namespace Tree

/-- The nodes that a tree is written as. -/
def toWire : Tree → Wire
  | .leaf c => .mk .operand c.toJson none none
  | .node k left right =>
    .mk .operator (.string k.keyword) (some left.toWire) (some right.toWire)

/-- The tree that comes back from JSON. -/
def sent : Tree → Tree
  | .leaf c => .leaf c.sent
  | .node k left right => .node (.ofKeyword k.keyword) left.sent right.sent

/-- No literal is a NaN or an infinity. -/
def HasFiniteLiterals (t : Tree) : Prop := ∀ c ∈ t.leaves, c.literal.isFinite = true

/-- Every operator is the one that some text stands for. -/
structure HasReadOperators (t : Tree) : Prop where
  comparators : ∀ c ∈ t.leaves, ∃ symbol, Comparator.ofSymbol symbol = c.comparator
  connectives : ∀ k ∈ t.connectives, ∃ keyword, Connective.ofKeyword keyword = k

/-- The members of a node in ascending order. -/
theorem canonical_members (kind : String) (value left right : Json) :
    (Json.object [("type", .string kind), ("value", value), ("left", left),
      ("right", right)]).canonical =
      .object [("left", left.canonical), ("right", right.canonical), ("type", .string kind),
        ("value", value.canonical)] := by
  have htype : ¬ "value" < "type" ∧ "value" ≠ "type" := by decide
  have hleft : "left" < "type" := by decide
  have hright : ¬ "right" < "left" ∧ "right" ≠ "left" ∧ "right" < "type" := by decide
  simp only [Json.canonical, Json.canonicalMembers, Json.ofMembers, Json.insertMember,
    List.foldl_cons, List.foldl_nil, htype, hleft, hright, if_true, if_false]

/-- The JSON value of a tree is an object, in either order of its members. -/
theorem exists_toJson_eq (t : Tree) :
    (∃ ms, t.toJson = .object ms) ∧ ∃ ms, t.toJson.canonical = .object ms := by
  cases t with
  | leaf c => exact ⟨⟨_, rfl⟩, ⟨_, rfl⟩⟩
  | node k left right => exact ⟨⟨_, rfl⟩, ⟨_, rfl⟩⟩

/-- The nodes of a tree are found in its JSON value, in either order of the members. -/
theorem wire_ofJson_toJson (t : Tree) :
    Wire.ofJson t.toJson = .ok t.toWire ∧ Wire.ofJson t.toJson.canonical = .ok t.toWire := by
  have hoperand : Wire.Kind.ofJson (.string "operand") = .ok .operand := rfl
  have hoperator : Wire.Kind.ofJson (.string "operator") = .ok .operator := rfl
  -- A side is an object, and so it is read as a node of its own.
  have child {v : Json} {w : Wire} (hobject : ∃ ms, v = .object ms) (h : Wire.ofJson v = .ok w) :
      Wire.ofChild v = .ok (some w) := by
    obtain ⟨ms, rfl⟩ := hobject
    rw [Wire.ofChild_object, h]
    rfl
  induction t with
  | leaf c =>
    constructor
    · simp [toJson, Wire.ofJson, Wire.ofMembers, Wire.ofChild, hoperand, bind, Except.bind,
        Wire.Parts.finish, toWire]
    · rw [toJson, canonical_members, Condition.canonical_toJson]
      simp [Json.canonical, Wire.ofJson, Wire.ofMembers, Wire.ofChild, hoperand, bind,
        Except.bind, Wire.Parts.finish, toWire]
  | node k left right ihl ihr =>
    obtain ⟨hleft, hleft'⟩ := exists_toJson_eq left
    obtain ⟨hright, hright'⟩ := exists_toJson_eq right
    constructor
    · simp [toJson, Wire.ofJson, Wire.ofMembers, hoperator, child hleft ihl.1,
        child hright ihr.1, bind, Except.bind, Wire.Parts.finish, toWire]
    · rw [toJson, canonical_members]
      simp [Json.canonical, Wire.ofJson, Wire.ofMembers, hoperator, child hleft' ihl.2,
        child hright' ihr.2, bind, Except.bind, Wire.Parts.finish, toWire]

/-- The nodes of a tree stand for the tree that comes back, if all literals are finite. -/
theorem toTree_toWire (t : Tree) :
    t.toWire.toTree =
      if t.leaves.all (·.literal.isFinite) then .ok t.sent
      else .error (.badCondition (.noAlternative "Literal")) := by
  induction t with
  | leaf c =>
    rw [toWire, Wire.toTree, Condition.ofJson_toJson]
    cases hfinite : c.literal.isFinite <;> simp [leaves, hfinite, sent]
  | node k left right ihl ihr =>
    rw [toWire, Wire.toTree, ihl, ihr, leaves, List.all_append]
    -- The left side is read first, but both are refused with the same error.
    cases left.leaves.all (·.literal.isFinite) <;>
      cases right.leaves.all (·.literal.isFinite) <;> rfl

/-- A tree comes back from JSON if all literals are finite, and is refused otherwise, in either
order of the members. -/
theorem ofJson_toJson (t : Tree) :
    ofJson t.toJson =
        (if t.leaves.all (·.literal.isFinite) then .ok t.sent
          else .error (.badCondition (.noAlternative "Literal"))) ∧
      ofJson t.toJson.canonical = ofJson t.toJson := by
  obtain ⟨hwritten, hcanonical⟩ := wire_ofJson_toJson t
  rw [ofJson, ofJson, hwritten, hcanonical]
  exact ⟨toTree_toWire t, rfl⟩

/-- The operators of a join and of its two sides have been read. -/
theorem HasReadOperators.of_node {k : Connective} {left right : Tree}
    (h : (Tree.node k left right).HasReadOperators) :
    Connective.ofKeyword k.keyword = k ∧ left.HasReadOperators ∧ right.HasReadOperators := by
  obtain ⟨hcomparators, hconnectives⟩ := h
  obtain ⟨hlcomparators, hrcomparators⟩ := forall_mem_leaves_node.1 hcomparators
  obtain ⟨⟨hlconnectives, hrconnectives⟩, keyword, hk⟩ :=
    forall_mem_connectives_node.1 hconnectives
  exact ⟨Connective.ofKeyword_keyword_of_ofKeyword hk, ⟨hlcomparators, hlconnectives⟩,
    ⟨hrcomparators, hrconnectives⟩⟩

/-- A condition whose operator has been read comes back with it. -/
theorem HasReadOperators.of_leaf {c : Condition} (h : (Tree.leaf c).HasReadOperators) :
    c.sent = ⟨c.field, c.comparator, c.literal.dropZeroSign⟩ := by
  obtain ⟨symbol, hc⟩ := h.comparators c List.mem_cons_self
  rw [Condition.sent, Comparator.ofSymbol_symbol_of_ofSymbol hc]

/-- A tree that rule texts can have comes back from JSON. -/
theorem Written.isRead {t : Tree} (h : t.Written) : t.HasReadOperators ∧ t.HasFiniteLiterals := by
  refine ⟨⟨?_, ?_⟩, ?_⟩
  · intro c hc
    exact ⟨c.comparator.symbol, Comparator.ofSymbol_symbol (h.leaves c hc).isSupported⟩
  · intro k hk
    rcases h.connectives k hk with rfl | rfl
    · exact ⟨"AND", rfl⟩
    · exact ⟨"OR", rfl⟩
  · exact fun c hc => (h.leaves c hc).literal.isFinite

/-- What comes back is equal but for the signs of zeros. -/
theorem sent_agrees {t : Tree} (read : t.HasReadOperators) (finite : t.HasFiniteLiterals) :
    t.sent.agrees t = true := by
  induction t with
  | leaf c =>
    have hliteral := Literal.dropZeroSign_agrees (finite c List.mem_cons_self)
    rw [sent, read.of_leaf, agrees, Condition.agrees, hliteral]
    simp
  | node k left right ihl ihr =>
    obtain ⟨hk, hleft, hright⟩ := read.of_node
    obtain ⟨hlfinite, hrfinite⟩ := forall_mem_leaves_node.1 finite
    rw [sent, agrees, hk, ihl hleft hlfinite, ihr hright hrfinite]
    simp

/-- What comes back is evaluated alike, from any log on. -/
theorem walk_sent {t : Tree} (read : t.HasReadOperators) (traced : Bool) (record : Record)
    (path : String) (log : Log) :
    t.sent.walk traced record path log = t.walk traced record path log := by
  induction t generalizing path log with
  | leaf c =>
    have htext : c.sent.text = c.text := by
      rw [read.of_leaf, Condition.text, Condition.text, Condition.chars, Condition.chars,
        Literal.chars_dropZeroSign]
    have hholds : c.sent.holds record = c.holds record := by
      rw [read.of_leaf]
      unfold Condition.holds Condition.holdsFor
      simp only [Literal.holds_dropZeroSign]
    rw [sent, walk, walk, htext, hholds]
  | node k left right ihl ihr =>
    obtain ⟨hk, hleft, hright⟩ := read.of_node
    rw [sent, walk, walk, hk]
    simp only [ihl hleft, ihr hright]

/-- What comes back is evaluated alike on every record. -/
theorem execute_sent {t : Tree} (read : t.HasReadOperators) (traced : Bool) (record : Record) :
    t.sent.execute traced record = t.execute traced record := by
  rw [execute, execute, walk_sent read]

end Tree

/-! ## What is read -/

namespace Condition

/-- A condition with a comparator that has been read and a finite literal. -/
structure IsRead (c : Condition) : Prop where
  comparator : ∃ symbol, Comparator.ofSymbol symbol = c.comparator
  literal : c.literal.isFinite = true

/-- The parts of a condition that have been met are read. -/
structure Parts.AreRead (p : Parts) : Prop where
  comparator : ∀ k, p.comparator = some k → ∃ symbol, Comparator.ofSymbol symbol = k
  literal : ∀ l, p.literal = some l → l.isFinite = true

/-- A literal in JSON is finite. -/
theorem isFinite_of_literalOfJson {v : Json} {l : Literal} (h : literalOfJson v = .ok l) :
    l.isFinite = true := by
  unfold literalOfJson at h
  split at h
  · next hl =>
    cases h
    exact Literal.isFinite_of_ofJson? hl
  · cases h

/-- Every member of an object keeps the parts read. -/
theorem areRead_of_ofMembers {p q : Parts} {ms : List (String × Json)} (read : p.AreRead)
    (h : ofMembers p ms = .ok q) : q.AreRead := by
  induction ms generalizing p with
  | nil =>
    cases h
    exact read
  | cons m ms ih =>
    obtain ⟨key, v⟩ := m
    rw [ofMembers] at h
    split at h
    · split at h
      · cases h
      · obtain ⟨field, -, h⟩ := bind_eq_ok.1 h
        refine ih ?_ h
        exact ⟨read.comparator, read.literal⟩
    · split at h
      · split at h
        · cases h
        · obtain ⟨symbol, -, h⟩ := bind_eq_ok.1 h
          -- The comparator is the one of the symbol that is met.
          refine ih ?_ h
          refine ⟨?_, read.literal⟩
          rintro k ⟨⟩
          exact ⟨symbol, rfl⟩
      · split at h
        · split at h
          · cases h
          · obtain ⟨l, hl, h⟩ := bind_eq_ok.1 h
            refine ih ?_ h
            refine ⟨read.comparator, ?_⟩
            rintro l' ⟨⟩
            exact isFinite_of_literalOfJson hl
        · exact ih read h

/-- A condition that is made of parts that are read is read. -/
theorem Parts.isRead_of_finish {p : Parts} {c : Condition} (read : p.AreRead)
    (h : p.finish = .ok c) : c.IsRead := by
  unfold Parts.finish at h
  split at h
  · cases h
  · cases h
  · cases h
  · next hcomparator hliteral =>
    cases h
    exact ⟨read.comparator _ hcomparator, read.literal _ hliteral⟩

/-- A condition in JSON has a comparator that some text stands for and a finite literal. -/
theorem isRead_of_ofJson {v : Json} {c : Condition} (h : ofJson v = .ok c) : c.IsRead := by
  unfold ofJson at h
  split at h
  · obtain ⟨p, hp, hfinish⟩ := bind_eq_ok.1 h
    -- No part has been met in front of the first member.
    have hstart : (⟨none, none, none⟩ : Parts).AreRead := by
      constructor <;> rintro _ ⟨⟩
    exact Parts.isRead_of_finish (areRead_of_ofMembers hstart hp) hfinish
  · unfold ofItems at h
    split at h
    · cases h
    · obtain ⟨_, -, h⟩ := bind_eq_ok.1 h
      cases h
    · obtain ⟨_, -, h⟩ := bind_eq_ok.1 h
      obtain ⟨_, -, h⟩ := bind_eq_ok.1 h
      cases h
    · obtain ⟨field, -, h⟩ := bind_eq_ok.1 h
      obtain ⟨symbol, -, h⟩ := bind_eq_ok.1 h
      obtain ⟨l, hl, h⟩ := bind_eq_ok.1 h
      split at h
      · cases h
        exact ⟨⟨symbol, rfl⟩, isFinite_of_literalOfJson hl⟩
      · cases h
  · cases h

end Condition

/-- A tree that nodes stand for has operators that have been read and finite literals. -/
theorem Wire.isRead_of_toTree {w : Wire} {t : Tree} (h : w.toTree = .ok t) :
    t.HasReadOperators ∧ t.HasFiniteLiterals := by
  fun_induction Wire.toTree w generalizing t with
  -- A node gives a tree only as an operand with a condition or as an operator with both sides.
  | case2 value left right _ c hc =>
    cases h
    obtain ⟨hcomparator, hliteral⟩ := Condition.isRead_of_ofJson hc
    exact ⟨⟨List.forall_mem_singleton.2 hcomparator, by rintro k ⟨⟩⟩,
      List.forall_mem_singleton.2 hliteral⟩
  | case6 keyword l r ihl ihr =>
    obtain ⟨left, hleft, h⟩ := bind_eq_ok.1 h
    obtain ⟨right, hright, h⟩ := bind_eq_ok.1 h
    cases h
    obtain ⟨⟨hlcomparators, hlconnectives⟩, hlliterals⟩ := ihl hleft
    obtain ⟨⟨hrcomparators, hrconnectives⟩, hrliterals⟩ := ihr hright
    exact ⟨⟨Tree.forall_mem_leaves_node.2 ⟨hlcomparators, hrcomparators⟩,
      Tree.forall_mem_connectives_node.2 ⟨⟨hlconnectives, hrconnectives⟩, keyword, rfl⟩⟩,
      Tree.forall_mem_leaves_node.2 ⟨hlliterals, hrliterals⟩⟩
  | _ => cases h

namespace Tree

/-- A tree that is read from JSON has operators that have been read and finite literals. -/
theorem isRead_of_ofJson {v : Json} {t : Tree} (h : ofJson v = .ok t) :
    t.HasReadOperators ∧ t.HasFiniteLiterals := by
  unfold ofJson at h
  split at h
  · exact Wire.isRead_of_toTree h
  · cases h

/-- A tree whose operators have been read and whose literals are finite comes back from JSON equal
and evaluates alike, a tree with another literal is refused, and every tree that is read from JSON
is of the first kind. -/
theorem agrees_ofJson_toJson (t : Tree) :
    (t.HasReadOperators → t.HasFiniteLiterals →
      ∃ u, ofJson t.toJson = .ok u ∧ ofJson t.toJson.canonical = .ok u ∧ u.agrees t = true ∧
        ∀ traced record, u.execute traced record = t.execute traced record) ∧
    (¬ t.HasFiniteLiterals →
      ∃ e, ofJson t.toJson = .error e ∧ ofJson t.toJson.canonical = .error e) ∧
    ∀ v, ofJson v = .ok t → t.HasReadOperators ∧ t.HasFiniteLiterals := by
  have hall : t.leaves.all (·.literal.isFinite) = true ↔ t.HasFiniteLiterals := List.all_eq_true
  obtain ⟨hwritten, hcanonical⟩ := ofJson_toJson t
  -- Both orders of the members are read alike, so one equation decides all of it.
  rw [hcanonical, hwritten]
  refine ⟨fun read finite => ?_, fun infinite => ?_, fun v => isRead_of_ofJson⟩
  · rw [if_pos (hall.2 finite)]
    exact ⟨t.sent, rfl, rfl, sent_agrees read finite, execute_sent read⟩
  · rw [if_neg (mt hall.1 infinite)]
    exact ⟨_, rfl, rfl⟩

/-- A negative zero and an unsupported symbol come back, a NaN is refused, and a condition is read
from an array. -/
theorem agrees_ofJson_toJson_negativeZero :
    (∃ u, ofJson (toJson (.node .or (.leaf ⟨"a", .gt, .number .negativeZero⟩)
          (.leaf ⟨"b", .unsupported "~", .text "x"⟩))) = .ok u ∧
        u.agrees (.node .or (.leaf ⟨"a", .gt, .number .negativeZero⟩)
          (.leaf ⟨"b", .unsupported "~", .text "x"⟩)) = true) ∧
      (∃ e, ofJson (toJson (.leaf ⟨"a", .eq, .number .nan⟩)) = .error e) ∧
      (Tree.leaf ⟨"a", .eq, .text "x"⟩).HasFiniteLiterals := by
  generalize ht : Tree.node .or (.leaf ⟨"a", .gt, .number .negativeZero⟩)
    (.leaf ⟨"b", .unsupported "~", .text "x"⟩) = t
  have read : t.HasReadOperators := by
    subst ht
    refine ⟨List.forall_mem_cons.2 ⟨⟨">", rfl⟩, List.forall_mem_singleton.2 ⟨"~", rfl⟩⟩, ?_⟩
    exact List.forall_mem_singleton.2 ⟨"OR", rfl⟩
  have finite : t.HasFiniteLiterals := by
    subst ht
    exact List.forall_mem_cons.2 ⟨rfl, List.forall_mem_singleton.2 rfl⟩
  refine ⟨?_, ?_, ?_⟩
  · obtain ⟨u, hu, -, hagrees, -⟩ := (agrees_ofJson_toJson t).1 read finite
    exact ⟨u, hu, hagrees⟩
  · have infinite : ¬ (Tree.leaf ⟨"a", .eq, .number .nan⟩).HasFiniteLiterals := fun finite =>
      Bool.false_ne_true (finite _ List.mem_cons_self)
    obtain ⟨e, he, -⟩ := (agrees_ofJson_toJson _).2.1 infinite
    exact ⟨e, he⟩
  · have hread : ofJson (.array [.string "operand",
        .array [.string "a", .string "==", .string "x"]]) = .ok (.leaf ⟨"a", .eq, .text "x"⟩) := rfl
    exact ((agrees_ofJson_toJson _).2.2 _ hread).2

/-! ## Rules that are read from texts -/

/-- Compiled and combined rules are joined by `AND` and `OR` only. Each of their conditions has a
field of word characters, a supported comparator, and a finite number or a text without a quote and
without a line feed, which JSON can carry. -/
theorem shape_of_texts {t : Tree}
    (h : (∃ source, compile source = .ok t) ∨ ∃ sources, combine sources = .ok (some t)) :
    (∀ k ∈ t.connectives, k = .and ∨ k = .or) ∧
      ∀ c ∈ t.leaves, (c.field ≠ "" ∧ ∀ x ∈ c.field.toList, Text.isWord x = true) ∧
        c.comparator ∈ [.gt, .lt, .ge, .le, .eq] ∧
        ((∃ x, c.literal = .number x ∧ x.isFinite = true) ∨
          ∃ s, c.literal = .text s ∧ '\'' ∉ s.toList ∧ '\n' ∉ s.toList) ∧
        ∃ l, Literal.ofJson? c.literal.toJson = some l ∧ l.agrees c.literal = true := by
  have written : t.Written := by
    rcases h with ⟨source, hcompile⟩ | ⟨sources, hcombine⟩
    · exact written_of_compile hcompile
    · exact written_of_combine hcombine
  refine ⟨written.connectives, fun c hc => ?_⟩
  obtain ⟨hfield, hword, hsupported, hliteral⟩ := written.leaves c hc
  refine ⟨⟨hfield, hword⟩, ?_, ?_, c.literal.dropZeroSign, ?_, ?_⟩
  · cases hcomparator : c.comparator with
    | unsupported symbol =>
      rw [hcomparator] at hsupported
      cases hsupported
    | _ => decide
  · cases hl : c.literal with
    | number x =>
      rw [hl] at hliteral
      exact .inl ⟨x, rfl, hliteral⟩
    | text s =>
      rw [hl] at hliteral
      exact .inr ⟨s, rfl, fun hquote => (hliteral _ hquote).1 rfl,
        fun hline => (hliteral _ hline).2 rfl⟩
  · rw [Literal.ofJson?_toJson, if_pos hliteral.isFinite]
  · exact Literal.dropZeroSign_agrees hliteral.isFinite

/-- A field and digits of another script stay a text, and a negative zero comes back. -/
theorem shape_of_texts_other_script :
    combine ["é >= ٣", "b < '1' OR (c=-0)"] =
        .ok (some (.node .and (.leaf ⟨"é", .ge, .text "٣"⟩)
          (.node .or (.leaf ⟨"b", .lt, .text "1"⟩) (.leaf ⟨"c", .eq, .number .negativeZero⟩)))) ∧
      ∀ c ∈ [⟨"é", .ge, .text "٣"⟩, ⟨"b", .lt, .text "1"⟩,
          (⟨"c", .eq, .number .negativeZero⟩ : Condition)],
        ∃ l, Literal.ofJson? c.literal.toJson = some l ∧ l.agrees c.literal = true := by
  have hcombine : combine ["é >= ٣", "b < '1' OR (c=-0)"] =
      .ok (some (.node .and (.leaf ⟨"é", .ge, .text "٣"⟩)
        (.node .or (.leaf ⟨"b", .lt, .text "1"⟩) (.leaf ⟨"c", .eq, .number .negativeZero⟩)))) := by
    decide +kernel
  exact ⟨hcombine, fun c hc => ((shape_of_texts (.inr ⟨_, hcombine⟩)).2 c hc).2.2.2⟩

end Tree

end Rulebook
