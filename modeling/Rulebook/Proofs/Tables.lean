import Mathlib.Data.List.Nodup
import Mathlib.Logic.Relation
import Rulebook.Proofs.Values

/-!
# Tables of a TOML document

Each line of a document changes its tables in one of three ways, and none of them puts a key into a
table that has it. So the table that a document gives has no key twice, at any depth, whatever
stands in the document.
-/

namespace Rulebook.Toml

/-! ## Changing the node under a key -/

/-- The first entry is the one under its key. -/
theorem lookup_cons (k key : String) (n : Node) (es : Entries) :
    ((key, n) :: es).lookup k = if k = key then some n else es.lookup k := by
  rw [List.lookup_cons]
  by_cases h : k = key
  · simp [h]
  · simp [h, beq_false_of_ne h]

/-- What changing the node under a key does to a table: the node is there, all else stays, and no
key is there twice that was not. -/
structure Alters (key : String) (es es' : Entries) (n : Node) : Prop where
  lookup_eq : ∀ k, es'.lookup k = if k = key then some n else es.lookup k
  keys : es'.map (·.1) = es.map (·.1) ∨ key ∉ es.map (·.1) ∧ es'.map (·.1) = es.map (·.1) ++ [key]
  eq_or_mem : ∀ e ∈ es', e = (key, n) ∨ e ∈ es

/-- A change that does not fail puts what it gives under the key. -/
theorem exists_alters {key : String} {f : Option Node → Option Node} {es es' : Entries}
    (h : alter? key f es = some es') : ∃ n, f (es.lookup key) = some n ∧ Alters key es es' n := by
  induction es generalizing es' with
  | nil =>
    obtain ⟨n, hn, rfl⟩ := Option.map_eq_some_iff.1 h
    exact ⟨n, hn, fun k => lookup_cons k key n [], .inr ⟨List.not_mem_nil, rfl⟩,
      fun e he => .inl (List.mem_singleton.1 he)⟩
  | cons e es ih =>
    obtain ⟨key', old⟩ := e
    rw [alter?] at h
    split at h
    · next hkey =>
      subst hkey
      obtain ⟨n, hn, rfl⟩ := Option.map_eq_some_iff.1 h
      refine ⟨n, by simpa using hn, fun k => ?_, .inl rfl, fun e he => ?_⟩
      · rw [lookup_cons, lookup_cons]
        split <;> rfl
      · exact (List.mem_cons.1 he).imp_right (List.mem_cons_of_mem _)
    · next hkey =>
      obtain ⟨rest, hrest, rfl⟩ := Option.map_eq_some_iff.1 h
      obtain ⟨n, hn, halters⟩ := ih hrest
      refine ⟨n, by rwa [lookup_cons, if_neg (Ne.symm hkey)], fun k => ?_, ?_, fun e he => ?_⟩
      · rw [lookup_cons, lookup_cons, halters.lookup_eq]
        by_cases hk : k = key
        · rw [if_pos hk, if_pos hk, if_neg (hk ▸ Ne.symm hkey)]
        · rw [if_neg hk, if_neg hk]
      · obtain hkeys | ⟨hnew, hkeys⟩ := halters.keys
        · exact .inl (congrArg (key' :: ·) hkeys)
        · exact .inr ⟨List.not_mem_cons_of_ne_of_not_mem (Ne.symm hkey) hnew,
            congrArg (key' :: ·) hkeys⟩
      · obtain rfl | he := List.mem_cons.1 he
        · exact .inr List.mem_cons_self
        · exact (halters.eq_or_mem e he).imp_right (List.mem_cons_of_mem _)

/-- A change of the last one of a list of tables changes one table and keeps those in front. -/
theorem exists_of_alterLast? {f : Entries → Option Entries} {items items' : List Entries}
    (h : alterLast? f items = some items') :
    ∃ front es es', items = front ++ [es] ∧ items' = front ++ [es'] ∧ f es = some es' := by
  induction items generalizing items' with
  | nil => cases h
  | cons es rest ih =>
    cases rest with
    | nil =>
      obtain ⟨es', hes, rfl⟩ := Option.map_eq_some_iff.1 h
      exact ⟨[], es, es', rfl, rfl, hes⟩
    | cons other rest =>
      rw [alterLast?] at h
      · obtain ⟨rest', hrest, rfl⟩ := Option.map_eq_some_iff.1 h
        obtain ⟨front, last, last', hfront, hfront', hlast⟩ := ih hrest
        exact ⟨es :: front, last, last', congrArg (es :: ·) hfront, congrArg (es :: ·) hfront',
          hlast⟩
      · nofun

end Rulebook.Toml

namespace Rulebook

/-! ## No key twice -/

/-- A setting in which no table has a key twice and integers are those of 64 bits. -/
inductive Setting.IsProper : Setting → Prop
  | nothing : IsProper .nothing
  | text (s : String) : IsProper (.text s)
  | flag (b : Bool) : IsProper (.flag b)
  | integer {i : Int} (fits : isWord64 i = true) : IsProper (.integer i)
  | real (x : Double) : IsProper (.real x)
  | list {items : List Setting} (proper : ∀ s ∈ items, IsProper s) : IsProper (.list items)
  | table {es : List (String × Setting)} (distinct : (es.map (·.1)).Nodup)
      (proper : ∀ e ∈ es, IsProper e.2) : IsProper (.table es)

namespace Toml

/-- A node of a document in the making that stands for such a setting. -/
inductive Node.IsProper : Node → Prop
  | value {s : Setting} (proper : s.IsProper) : IsProper (.value s)
  | table {opening : Opening} {es : Entries} (distinct : (es.map (·.1)).Nodup)
      (proper : ∀ e ∈ es, IsProper e.2) : IsProper (.table opening es)
  | tables {items : List Entries} (distinct : ∀ es ∈ items, (es.map (·.1)).Nodup)
      (proper : ∀ es ∈ items, ∀ e ∈ es, IsProper e.2) : IsProper (.tables items)

/-- A table in the making in which no key is there twice. -/
structure ProperEntries (es : Entries) : Prop where
  distinct : (es.map (·.1)).Nodup
  proper : ∀ e ∈ es, e.2.IsProper

/-- The empty table has no key. -/
theorem ProperEntries.nil : ProperEntries [] := ⟨.nil, nofun⟩

/-- A table is proper if its entries are. -/
theorem Node.isProper_table_iff {opening : Opening} {es : Entries} :
    (Node.table opening es).IsProper ↔ ProperEntries es :=
  ⟨fun | .table distinct proper => ⟨distinct, proper⟩, fun h => .table h.distinct h.proper⟩

/-- Tables of a list are proper if the entries of each one are. -/
theorem Node.isProper_tables_iff {items : List Entries} :
    (Node.tables items).IsProper ↔ ∀ es ∈ items, ProperEntries es :=
  ⟨fun | .tables distinct proper => fun es hes => ⟨distinct es hes, proper es hes⟩,
    fun h => .tables (fun es hes => (h es hes).distinct) fun es hes => (h es hes).proper⟩

/-- A change that keeps nodes proper keeps a table proper. -/
theorem ProperEntries.alter? {key : String} {f : Option Node → Option Node} {es es' : Entries}
    (h : ProperEntries es)
    (hf : ∀ old n, f old = some n → (∀ o ∈ old, o.IsProper) → n.IsProper)
    (halter : alter? key f es = some es') : ProperEntries es' := by
  obtain ⟨n, hn, halters⟩ := exists_alters halter
  refine ⟨?_, fun e he => ?_⟩
  · obtain hkeys | ⟨hnew, hkeys⟩ := halters.keys
    · rw [hkeys]
      exact h.distinct
    · rw [hkeys, ← List.concat_eq_append]
      exact h.distinct.concat hnew
  · obtain rfl | he := halters.eq_or_mem e he
    · refine hf _ n hn fun o ho => ?_
      obtain ⟨before, after, rfl, -⟩ := List.lookup_eq_some_iff.1 ho
      exact h.proper (key, o) (by simp)
    · exact h.proper e he

/-- A change that keeps tables proper does so at the end of a path. -/
theorem ProperEntries.within? {f : Entries → Option Entries}
    (hf : ∀ es es', ProperEntries es → f es = some es' → ProperEntries es') :
    ∀ {path : List String} {es es' : Entries}, ProperEntries es → within? f path es = some es' →
      ProperEntries es'
  | [], es, es', h, hwithin => hf es es' h hwithin
  | key :: path, es, es', h, hwithin => by
    refine h.alter? (fun old n hn hold => ?_) hwithin
    split at hn
    · obtain ⟨inner, hinner, rfl⟩ := Option.map_eq_some_iff.1 hn
      exact Node.isProper_table_iff.2 (ProperEntries.within? hf .nil hinner)
    · obtain ⟨inner, hinner, rfl⟩ := Option.map_eq_some_iff.1 hn
      have hproper := Node.isProper_table_iff.1 (hold _ rfl)
      exact Node.isProper_table_iff.2 (ProperEntries.within? hf hproper hinner)
    -- A path goes through the last table of a list, and the others stay.
    · obtain ⟨items', hitems, rfl⟩ := Option.map_eq_some_iff.1 hn
      obtain ⟨front, last, last', rfl, rfl, hlast⟩ := exists_of_alterLast? hitems
      have hproper := Node.isProper_tables_iff.1 (hold _ rfl)
      refine Node.isProper_tables_iff.2 fun table htable => ?_
      obtain hfront | htable := List.mem_append.1 htable
      · exact hproper table (List.mem_append_left _ hfront)
      · rw [List.mem_singleton.1 htable]
        exact ProperEntries.within? hf (hproper last (by simp)) hlast
    · cases hn

/-- The header of a table keeps tables proper. -/
theorem ProperEntries.openTable? {path : List String} {key : String} {es es' : Entries}
    (h : ProperEntries es) (hopen : openTable? path key es = some es') : ProperEntries es' := by
  refine h.within? (fun es es' h halter => h.alter? (fun old n hn hold => ?_) halter) hopen
  split at hn
  · cases hn
    exact Node.isProper_table_iff.2 .nil
  · cases hn
    exact Node.isProper_table_iff.2 (Node.isProper_table_iff.1 (hold _ rfl))
  · cases hn

/-- A header in double brackets keeps tables proper. -/
theorem ProperEntries.addTable? {path : List String} {key : String} {es es' : Entries}
    (h : ProperEntries es) (hadd : addTable? path key es = some es') : ProperEntries es' := by
  refine h.within? (fun es es' h halter => h.alter? (fun old n hn hold => ?_) halter) hadd
  split at hn
  · cases hn
    exact Node.isProper_tables_iff.2 (List.forall_mem_singleton.2 .nil)
  · cases hn
    refine Node.isProper_tables_iff.2 (List.forall_mem_append.2 ⟨?_, ?_⟩)
    · exact Node.isProper_tables_iff.1 (hold _ rfl)
    · exact List.forall_mem_singleton.2 .nil
  · cases hn

/-- A key with a proper value keeps tables proper. -/
theorem ProperEntries.define? {value : Setting} (hvalue : value.IsProper) :
    ∀ {path : List String} {es es' : Entries}, ProperEntries es →
      define? value path es = some es' → ProperEntries es'
  | [], _, _, _, hdefine => by cases hdefine
  | [key], es, es', h, hdefine => by
    refine h.alter? (fun old n hn _ => ?_) hdefine
    split at hn
    · cases hn
      exact .value hvalue
    · cases hn
  | key :: next :: path, es, es', h, hdefine => by
    refine h.alter? (fun old n hn hold => ?_) hdefine
    split at hn
    · obtain ⟨inner, hinner, rfl⟩ := Option.map_eq_some_iff.1 hn
      exact Node.isProper_table_iff.2 (ProperEntries.define? hvalue .nil hinner)
    · obtain ⟨inner, hinner, rfl⟩ := Option.map_eq_some_iff.1 hn
      have hproper := Node.isProper_table_iff.1 (hold _ rfl)
      exact Node.isProper_table_iff.2 (ProperEntries.define? hvalue hproper hinner)
    · cases hn

/-- The settings of a table's entries, under their keys. -/
theorem entrySettings_eq_map (es : Entries) :
    entrySettings es = es.map fun e => (e.1, e.2.toSetting) := by
  induction es with
  | nil => rfl
  | cons e es ih => exact congrArg ((e.1, e.2.toSetting) :: ·) ih

/-- The settings of the tables of a list. -/
theorem tableSettings_eq_map (items : List Entries) :
    tableSettings items = items.map fun es => .table (entrySettings es) := by
  induction items with
  | nil => rfl
  | cons es items ih => exact congrArg (Setting.table (entrySettings es) :: ·) ih

/-- A proper node stands for a proper setting. -/
theorem Node.IsProper.toSetting {n : Node} (h : n.IsProper) : n.toSetting.IsProper := by
  have htable {es : Entries} (distinct : (es.map (·.1)).Nodup)
      (proper : ∀ e ∈ es, e.2.toSetting.IsProper) :
      (Setting.table (entrySettings es)).IsProper := by
    rw [entrySettings_eq_map]
    refine .table (by rwa [List.map_map]) fun e he => ?_
    obtain ⟨e', he', rfl⟩ := List.mem_map.1 he
    exact proper e' he'
  induction h with
  | value proper => exact proper
  | table distinct _ ih => exact htable distinct ih
  | tables distinct _ ih =>
    rw [Node.toSetting, tableSettings_eq_map]
    refine .list fun s hs => ?_
    obtain ⟨es, hes, rfl⟩ := List.mem_map.1 hs
    exact htable (distinct es hes) (ih es hes)

/-- A proper table stands for a proper setting. -/
theorem ProperEntries.toSetting {es : Entries} (h : ProperEntries es) :
    (Setting.table (entrySettings es)).IsProper :=
  have hnode : (Node.table .header es).IsProper := .table h.distinct h.proper
  hnode.toSetting

/-! ## Values -/

/-- An integer that is read fits 64 bits. -/
theorem isProper_of_integer? {i : Int} {s : Setting} (h : integer? i = some s) : s.IsProper := by
  obtain ⟨fits, h⟩ := Option.ite_none_right_eq_some.1 h
  cases h
  exact .integer fits

/-- A float that is read is a proper setting. -/
theorem isProper_of_real? {d : Decimal} {s : Setting} (h : real? d = some s) : s.IsProper := by
  obtain ⟨-, h⟩ := Option.ite_none_right_eq_some.1 h
  cases h
  exact .real _

/-- An integer to another base than ten is a proper setting. -/
theorem isProper_of_based? {base : Nat} {cs : List Char} {s : Setting}
    (h : based? base cs = some s) : s.IsProper := by
  obtain ⟨_, -, h⟩ := Option.bind_eq_some_iff.1 h
  exact isProper_of_integer? h

/-- A decimal number is a proper setting. -/
theorem isProper_of_number? {negative : Bool} {cs : List Char} {s : Setting}
    (h : number? negative cs = some s) : s.IsProper := by
  obtain ⟨whole, -, h⟩ := Option.bind_eq_some_iff.1 h
  split at h
  · exact isProper_of_integer? h
  · obtain ⟨fraction, -, h⟩ := Option.bind_eq_some_iff.1 h
    obtain ⟨exponent, -, h⟩ := Option.bind_eq_some_iff.1 h
    exact isProper_of_real? h
  · obtain ⟨exponent, -, h⟩ := Option.bind_eq_some_iff.1 h
    exact isProper_of_real? h

/-- A number or a flag is a proper setting. -/
theorem isProper_of_word? {cs : List Char} {s : Setting} (h : word? cs = some s) :
    s.IsProper := by
  unfold word? at h
  split at h
  -- The flags, the infinities and the NaNs are proper as they stand.
  all_goals try (cases h; constructor)
  split at h
  · exact isProper_of_based? h
  · exact isProper_of_based? h
  · exact isProper_of_based? h
  · exact isProper_of_number? h
  · exact isProper_of_number? h
  · exact isProper_of_number? h

/-- A number, a flag, a date or a time is a proper setting. -/
theorem isProper_of_wordValue? {cs rest : List Char} {s : Setting}
    (h : wordValue? cs = some (s, rest)) : s.IsProper := by
  obtain ⟨value, hvalue, h⟩ := Option.map_eq_some_iff.1 h
  cases h
  obtain hword | ⟨-, hmoment⟩ := Option.or_eq_some_iff.1 hvalue
  · exact isProper_of_word? hword
  · obtain ⟨text, -, rfl⟩ := Option.map_eq_some_iff.1 hmoment
    exact .text _

mutual

/-- A value that is read is a proper setting. -/
theorem ReadsValue.isProper {depth : Nat} {cs rest : List Char} {s : Setting} :
    ReadsValue depth cs s rest → s.IsProper
  | .string _ => .text _
  | .word read => isProper_of_wordValue? read
  | .array read => .list read.isProper
  | .table read => (read.properEntries .nil).toSetting

/-- The items of an array that is read are proper settings. -/
theorem ReadsItems.isProper {depth : Nat} {cs rest : List Char} {items : List Setting} :
    ReadsItems depth cs items rest → ∀ s ∈ items, s.IsProper
  | .closed _ => fun _ hs => absurd hs List.not_mem_nil
  | .last read _ => List.forall_mem_singleton.2 read.isProper
  | .cons read _ others => List.forall_mem_cons.2 ⟨read.isProper, others.isProper⟩

/-- The entries of a table in braces stay proper with each one that is read. -/
theorem ReadsPairs.properEntries {depth : Nat} {es es' : Entries} {cs rest : List Char} :
    ReadsPairs depth es cs es' rest → ProperEntries es → ProperEntries es'
  | .closed _, h => h
  | .last _ read defined _, h => h.define? read.isProper defined
  | .cons _ read defined _ others, h => others.properEntries (h.define? read.isProper defined)

end

/-! ## Documents -/

/-- What a line with a header or a key does to the tables of a document. -/
inductive Change (es es' : Entries) : Prop
  | opened (path : List String) (key : String) (h : openTable? path key es = some es')
  | added (path : List String) (key : String) (h : addTable? path key es = some es')
  | defined (path key : List String) {value : Setting} (proper : value.IsProper)
      (h : within? (define? value key) path es = some es')

/-- A header changes the tables as its brackets say. -/
theorem Document.exists_of_header? {opens : List String → String → Entries → Option Entries}
    {d d' : Document} {cs rest : List Char} (h : d.header? opens cs = some (d', rest)) :
    ∃ path key, opens path key d.entries = some d'.entries := by
  obtain ⟨⟨path, after⟩, -, h⟩ := Option.bind_eq_some_iff.1 h
  obtain ⟨entries, hopens, h⟩ := Option.bind_eq_some_iff.1 h
  cases h
  exact ⟨_, _, hopens⟩

/-- A line changes the tables in one of the three ways. -/
theorem Document.change_of_line? {d d' : Document} {cs rest : List Char}
    (h : d.line? cs = some (d', rest)) : Change d.entries d'.entries := by
  obtain ⟨inner, closed, -, hheader, -⟩ | ⟨inner, closed, -, hheader, -⟩ |
    ⟨key, behind, value, after, -, hvalue, hdefine, -⟩ := cases_of_line? h
  · obtain ⟨path, key, hadd⟩ := exists_of_header? hheader
    exact .added path key hadd
  · obtain ⟨path, key, hopen⟩ := exists_of_header? hheader
    exact .opened path key hopen
  · exact .defined d.current key ((ReadsValue.of_value? hvalue).isProper) hdefine

/-- Lines change the tables one after the other. -/
theorem Document.changes_of_lines? {steps : Nat} {d d' : Document} {cs : List Char}
    (h : lines? steps d cs = some d') : Relation.ReflTransGen Change d.entries d'.entries := by
  induction steps generalizing d cs with
  | zero =>
    obtain ⟨-, h⟩ := Option.ite_none_right_eq_some.1 h
    cases h
    exact .refl
  | succ steps ih =>
    rw [Document.lines?] at h
    split at h
    · cases h
      exact .refl
    · split at h
      · exact ih h
      · obtain ⟨⟨next, after⟩, hline, h⟩ := Option.bind_eq_some_iff.1 h
        exact .head (change_of_line? hline) (ih h)

/-- A line keeps tables proper. -/
theorem ProperEntries.change {es es' : Entries} (h : ProperEntries es) (hchange : Change es es') :
    ProperEntries es' := by
  cases hchange with
  | opened path key hopen => exact h.openTable? hopen
  | added path key hadd => exact h.addTable? hadd
  | defined path key proper hdefine =>
    exact h.within? (fun es es' hes hkey => hes.define? proper hkey) hdefine

/-- Lines keep tables proper. -/
theorem ProperEntries.changes {es es' : Entries} (h : ProperEntries es)
    (hchanges : Relation.ReflTransGen Change es es') : ProperEntries es' := by
  induction hchanges with
  | refl => exact h
  | tail _ hchange ih => exact ih.change hchange

/-- The table that a document gives has no key twice, at any depth, and its integers fit 64 bits. -/
theorem isProper_of_read? {cs : List Char} {es : List (String × Setting)}
    (h : read? cs = some es) : (Setting.table es).IsProper := by
  obtain ⟨d, hlines, rfl⟩ := Option.map_eq_some_iff.1 h
  exact (ProperEntries.nil.changes (Document.changes_of_lines? hlines)).toSetting

end Toml

end Rulebook
