import Rulebook.Proofs.Tables

/-!
# What a TOML document has defined

A line only adds to the tables of a document: a value stays what it is, a table gets more keys, and
a list gets more tables. So what a line has defined is there at the end of the document, and no line
defines it again.
-/

namespace Rulebook.Toml

/-! ## Growing tables -/

mutual

/-- What a node may have become further down. Only the header of a table inside it may stand in
front of a table's own. -/
inductive Node.Grows : Node → Node → Prop
  | value (s : Setting) : Node.Grows (.value s) (.value s)
  | table {opening opening' : Opening} {es es' : List (String × Node)}
      (opens : opening' = opening ∨ opening = .passage ∧ opening' = .header)
      (entries : EntriesGrow es es') : Node.Grows (.table opening es) (.table opening' es')
  | tables {items items' : List (List (String × Node))} (tables : TablesGrow items items') :
      Node.Grows (.tables items) (.tables items')

/-- What a table may have become: its keys keep their order, and new ones are behind them. -/
inductive EntriesGrow : List (String × Node) → List (String × Node) → Prop
  | nil (es : List (String × Node)) : EntriesGrow [] es
  | cons (key : String) {n n' : Node} {es es' : List (String × Node)} (head : Node.Grows n n')
      (tail : EntriesGrow es es') : EntriesGrow ((key, n) :: es) ((key, n') :: es')

/-- What a list of tables may have become: new ones are behind the old ones. -/
inductive TablesGrow : List (List (String × Node)) → List (List (String × Node)) → Prop
  | nil (items : List (List (String × Node))) : TablesGrow [] items
  | cons {es es' : List (String × Node)} {items items' : List (List (String × Node))}
      (head : EntriesGrow es es') (tail : TablesGrow items items') :
      TablesGrow (es :: items) (es' :: items')

end

mutual

/-- A node may stay as it is. -/
theorem Node.Grows.refl : ∀ n : Node, n.Grows n
  | .value s => .value s
  | .table _ es => .table (.inl rfl) (EntriesGrow.refl es)
  | .tables items => .tables (TablesGrow.refl items)

/-- A table may stay as it is. -/
theorem EntriesGrow.refl : ∀ es : List (String × Node), EntriesGrow es es
  | [] => .nil []
  | (key, n) :: es => .cons key (Node.Grows.refl n) (EntriesGrow.refl es)

/-- A list of tables may stay as it is. -/
theorem TablesGrow.refl : ∀ items : List (List (String × Node)), TablesGrow items items
  | [] => .nil []
  | es :: items => .cons (EntriesGrow.refl es) (TablesGrow.refl items)

end

mutual

/-- Growing twice is growing, for nodes. -/
theorem Node.Grows.trans {n₁ n₂ n₃ : Node} : n₁.Grows n₂ → n₂.Grows n₃ → n₁.Grows n₃
  | .value s, .value _ => .value s
  | .table opens h, .table opens' h' =>
    -- A table that has its own header by now gets no other one.
    .table (by grind) (h.trans h')
  | .tables h, .tables h' => .tables (h.trans h')

/-- Growing twice is growing, for tables. -/
theorem EntriesGrow.trans {es₁ es₂ es₃ : List (String × Node)} :
    EntriesGrow es₁ es₂ → EntriesGrow es₂ es₃ → EntriesGrow es₁ es₃
  | .nil _, _ => .nil _
  | .cons key h hs, .cons _ h' hs' => .cons key (h.trans h') (hs.trans hs')

/-- Growing twice is growing, for lists of tables. -/
theorem TablesGrow.trans {items₁ items₂ items₃ : List (List (String × Node))} :
    TablesGrow items₁ items₂ → TablesGrow items₂ items₃ → TablesGrow items₁ items₃
  | .nil _, _ => .nil _
  | .cons h hs, .cons h' hs' => .cons (h.trans h') (hs.trans hs')

end

/-- A new table behind the others makes a list grow. -/
theorem TablesGrow.append (items new : List Entries) : TablesGrow items (items ++ new) := by
  induction items with
  | nil => exact .nil new
  | cons es items ih => exact .cons (EntriesGrow.refl es) ih

/-- A list grows with its last table. -/
theorem TablesGrow.last (front : List Entries) {es es' : Entries} (h : EntriesGrow es es') :
    TablesGrow (front ++ [es]) (front ++ [es']) := by
  induction front with
  | nil => exact .cons h (.nil [])
  | cons other front ih => exact .cons (EntriesGrow.refl other) ih

/-! ## Lines -/

/-- A change that only lets nodes grow lets a table grow. -/
theorem EntriesGrow.of_alter? {key : String} {f : Option Node → Option Node} {es es' : Entries}
    (hf : ∀ n n', f (some n) = some n' → n.Grows n') (h : alter? key f es = some es') :
    EntriesGrow es es' := by
  induction es generalizing es' with
  | nil => exact .nil es'
  | cons e es ih =>
    obtain ⟨key', n⟩ := e
    rw [alter?] at h
    split at h
    · obtain ⟨n', hn, rfl⟩ := Option.map_eq_some_iff.1 h
      exact .cons key' (hf n n' hn) (EntriesGrow.refl es)
    · obtain ⟨rest, hrest, rfl⟩ := Option.map_eq_some_iff.1 h
      exact .cons key' (Node.Grows.refl n) (ih hrest)

/-- A change that only lets tables grow does so at the end of a path. -/
theorem EntriesGrow.of_within? {f : Entries → Option Entries}
    (hf : ∀ es es', f es = some es' → EntriesGrow es es') :
    ∀ {path : List String} {es es' : Entries}, within? f path es = some es' → EntriesGrow es es'
  | [], es, es', h => hf es es' h
  | key :: path, es, es', h => by
    refine .of_alter? (fun n n' hn => ?_) h
    split at hn
    · cases ‹some n = none›
    · next heq =>
      cases heq
      obtain ⟨inner, hinner, rfl⟩ := Option.map_eq_some_iff.1 hn
      exact .table (.inl rfl) (EntriesGrow.of_within? hf hinner)
    · next heq =>
      cases heq
      obtain ⟨items', hitems, rfl⟩ := Option.map_eq_some_iff.1 hn
      obtain ⟨front, last, last', rfl, rfl, hlast⟩ := exists_of_alterLast? hitems
      exact .tables (.last front (EntriesGrow.of_within? hf hlast))
    · cases hn

/-- A key with a value only adds to a table. -/
theorem EntriesGrow.of_define? {value : Setting} :
    ∀ {path : List String} {es es' : Entries}, define? value path es = some es' →
      EntriesGrow es es'
  | [], _, _, h => by cases h
  | [key], es, es', h => by
    refine .of_alter? (fun n n' hn => ?_) h
    cases hn
  | key :: next :: path, es, es', h => by
    refine .of_alter? (fun n n' hn => ?_) h
    split at hn
    · cases ‹some n = none›
    · next heq =>
      cases heq
      obtain ⟨inner, hinner, rfl⟩ := Option.map_eq_some_iff.1 hn
      exact .table (.inl rfl) (EntriesGrow.of_define? hinner)
    · cases hn

/-- A line only adds to the tables of a document. -/
theorem EntriesGrow.of_change {es es' : Entries} (h : Change es es') : EntriesGrow es es' := by
  cases h with
  | opened path key hopen =>
    refine .of_within? (fun es es' h => .of_alter? (fun n n' hn => ?_) h) hopen
    split at hn
    · cases ‹some n = none›
    · next heq =>
      cases heq
      cases hn
      exact .table (.inr ⟨rfl, rfl⟩) (EntriesGrow.refl _)
    · cases hn
  | added path key hadd =>
    refine .of_within? (fun es es' h => .of_alter? (fun n n' hn => ?_) h) hadd
    split at hn
    · cases ‹some n = none›
    · next heq =>
      cases heq
      cases hn
      exact .tables (.append _ _)
    · cases hn
  | defined path key proper hdefine =>
    exact .of_within? (fun es es' h => .of_define? h) hdefine

/-- Lines only add to the tables of a document. -/
theorem EntriesGrow.of_changes {es es' : Entries} (h : Relation.ReflTransGen Change es es') :
    EntriesGrow es es' := by
  induction h with
  | refl => exact EntriesGrow.refl es
  | tail _ hchange ih => exact ih.trans (.of_change hchange)

/-! ## Values under a path -/

/-- The value under a path of keys, each of which is that of a table but for the last. -/
def Node.valueAt? : (path : List String) → Node → Option Setting
  | [], .value s => some s
  | key :: path, .table _ es => (es.lookup key).bind (valueAt? path)
  | _, _ => none

/-- A key that is there stays, and its node may grow. -/
theorem EntriesGrow.exists_lookup {key : String} {n : Node} :
    ∀ {es es' : Entries}, EntriesGrow es es' → es.lookup key = some n →
      ∃ n', es'.lookup key = some n' ∧ n.Grows n'
  | [], _, _, hn => by cases hn
  | (k, m) :: es, _, .cons _ hm hes, hn => by
    rw [lookup_cons] at hn ⊢
    split at hn
    · next hk =>
      cases hn
      exact ⟨_, if_pos hk, hm⟩
    · next hk =>
      rw [if_neg hk]
      exact hes.exists_lookup hn

/-- A node that grows keeps the values that are in it. -/
theorem Node.Grows.valueAt?_eq {s : Setting} :
    ∀ {path : List String} {n n' : Node}, n.Grows n' → n.valueAt? path = some s →
      n'.valueAt? path = some s
  | [], _, _, .value _, h => h
  | [], _, _, .table .., h => by cases h
  | [], _, _, .tables _, h => by cases h
  | key :: path, _, _, .table _ hes, h => by
    obtain ⟨n, hn, h⟩ := Option.bind_eq_some_iff.1 h
    obtain ⟨n', hn', hgrows⟩ := hes.exists_lookup hn
    exact Option.bind_eq_some_iff.2 ⟨n', hn', hgrows.valueAt?_eq h⟩
  | _ :: _, _, _, .value _, h => by cases h
  | _ :: _, _, _, .tables _, h => by cases h

/-- A key that is defined has its value. -/
theorem valueAt?_of_define? {value : Setting} (opening : Opening) :
    ∀ {path : List String} {es es' : Entries}, define? value path es = some es' →
      (Node.table opening es').valueAt? path = some value
  | [], _, _, h => by cases h
  | [key], es, es', h => by
    obtain ⟨n, hn, halters⟩ := exists_alters h
    rw [Node.valueAt?, halters.lookup_eq, if_pos rfl]
    split at hn
    · cases hn
      rfl
    · cases hn
  | key :: next :: path, es, es', h => by
    obtain ⟨n, hn, halters⟩ := exists_alters h
    rw [Node.valueAt?, halters.lookup_eq, if_pos rfl]
    split at hn
    · obtain ⟨inner, hinner, rfl⟩ := Option.map_eq_some_iff.1 hn
      exact valueAt?_of_define? .dotted hinner
    · obtain ⟨inner, hinner, rfl⟩ := Option.map_eq_some_iff.1 hn
      exact valueAt?_of_define? .dotted hinner
    · cases hn

/-- A key that has a value is not defined. -/
theorem define?_eq_none {value s : Setting} {opening : Opening} :
    ∀ {path : List String} {es : Entries}, (Node.table opening es).valueAt? path = some s →
      define? value path es = none
  | [], _, h => by cases h
  | [key], es, h => by
    obtain ⟨n, hn, -⟩ := Option.bind_eq_some_iff.1 h
    refine Option.eq_none_iff_forall_not_mem.2 fun es' hes' => ?_
    obtain ⟨n', hn', -⟩ := exists_alters hes'
    rw [hn] at hn'
    cases hn'
  | key :: next :: path, es, h => by
    obtain ⟨n, hn, h⟩ := Option.bind_eq_some_iff.1 h
    refine Option.eq_none_iff_forall_not_mem.2 fun es' hes' => ?_
    obtain ⟨n', hn', -⟩ := exists_alters hes'
    rw [hn] at hn'
    split at hn'
    · cases ‹some n = none›
    · next heq =>
      cases heq
      rw [define?_eq_none h] at hn'
      cases hn'
    · cases hn'

/-- A key behind the path of a header is not defined if it has a value. -/
theorem within?_define?_eq_none {value s : Setting} {key : List String} {opening : Opening} :
    ∀ {path : List String} {es : Entries},
      (Node.table opening es).valueAt? (path ++ key) = some s →
        within? (define? value key) path es = none
  | [], _, h => define?_eq_none h
  | k :: path, es, h => by
    obtain ⟨n, hn, h⟩ := Option.bind_eq_some_iff.1 h
    refine Option.eq_none_iff_forall_not_mem.2 fun es' hes' => ?_
    obtain ⟨n', hn', -⟩ := exists_alters hes'
    rw [hn] at hn'
    split at hn'
    · cases ‹some n = none›
    · next heq =>
      cases heq
      rw [within?_define?_eq_none h] at hn'
      cases hn'
    · next heq =>
      -- No value is under a path through a list of tables.
      cases heq
      cases path <;> cases key <;> cases h
    · cases hn'

/-- What has a value keeps it to the end of a document, and no line gives it another one. -/
theorem valueAt?_eq_and_within?_define?_eq_none {steps : Nat} {d d' : Document} {cs : List Char}
    {path key : List String} {s : Setting} (h : Document.lines? steps d cs = some d')
    (hvalue : (Node.table .header d.entries).valueAt? (path ++ key) = some s) :
    (Node.table .header d'.entries).valueAt? (path ++ key) = some s ∧
      ∀ value, within? (define? value key) path d'.entries = none := by
  have hgrows := EntriesGrow.of_changes (Document.changes_of_lines? h)
  have hkept := (Node.Grows.table (.inl rfl) hgrows).valueAt?_eq hvalue
  exact ⟨hkept, fun value => within?_define?_eq_none hkept⟩

end Rulebook.Toml
