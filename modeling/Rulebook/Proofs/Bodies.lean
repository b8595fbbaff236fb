import Rulebook.Json.Shape
import Rulebook.Proofs.Outcome

/-!
# What a body is read to

A text that is one whole value breaks off nowhere, so the members that a shape does not know can be
passed over (`Json.Draft.whole_of_readText`). Of an object, a record takes each known member once,
by its name, and is gathered from what the members are read to (`Json.Shape.Gathers.takeMembers`).
Where the names are distinct and every known member can be read, the order of the members does not
matter (`Json.Shape.exists_takeMembers`).
-/

namespace Rulebook.Json

namespace Draft

/-! ## Whole values -/

/-- The members that a frame has so far. -/
def Frame.members : Frame → List (Option String × Draft)
  | .array _ => []
  | .object members => members
  | .member members _ => members

/-- Every member in the frames is whole. -/
def HaveWhole (frames : List Frame) : Prop := ∀ f ∈ frames, ∀ m ∈ f.members, m.2.isWhole = true

/-- A value that is whole, and so are its members, if it is an object. -/
structure Whole (d : Draft) : Prop where
  isWhole : d.isWhole = true
  members : ∀ members closed, d = .object members closed → ∀ m ∈ members, m.2.isWhole = true

/-- What is known of a state while a text is read: the members so far are whole, the frame that was
just opened is empty, and a value that is complete is whole. -/
inductive State.Sound : State → Prop
  | firstItem {outer : List Frame} (whole : HaveWhole outer) :
      Sound (.reading .firstItem (.array [] :: outer))
  | firstKey {outer : List Frame} (whole : HaveWhole outer) :
      Sound (.reading .firstKey (.object [] :: outer))
  | reading {wanted : Wanted} {frames : List Frame} (noItem : wanted ≠ .firstItem)
      (noKey : wanted ≠ .firstKey) (whole : HaveWhole frames) : Sound (.reading wanted frames)
  | complete {d : Draft} (whole : d.Whole) : Sound (.complete d)
  | trailing (d : Draft) : Sound (.trailing d)
  | failed (d : Draft) : Sound (.failed d)

theorem haveWhole_cons {f : Frame} {frames : List Frame} :
    HaveWhole (f :: frames) ↔ (∀ m ∈ f.members, m.2.isWhole = true) ∧ HaveWhole frames :=
  List.forall_mem_cons

/-- A whole value is put in its place. -/
theorem Whole.sound_place {d : Draft} (h : d.Whole) {frames : List Frame}
    (whole : HaveWhole frames) : (place d frames).Sound := by
  cases frames with
  | nil => exact .complete h
  | cons f outer =>
    obtain ⟨hmembers, houter⟩ := haveWhole_cons.1 whole
    cases f with
    | array items => exact .reading nofun nofun (haveWhole_cons.2 ⟨nofun, houter⟩)
    | object members => exact .failed _
    | member members key =>
      have hmembers : ∀ m ∈ (key, d) :: members, m.2.isWhole = true :=
        List.forall_mem_cons.2 ⟨h.isWhole, hmembers⟩
      exact .reading nofun nofun (haveWhole_cons.2 ⟨hmembers, houter⟩)

/-- An array ends. -/
theorem sound_closeContainer_array {items : List Draft} {outer : List Frame}
    (whole : HaveWhole outer) : (closeContainer (.array items :: outer)).Sound :=
  have hclosed : (Frame.close true none (.array items)).Whole := ⟨rfl, nofun⟩
  hclosed.sound_place whole

/-- An object ends. -/
theorem sound_closeContainer_object {members : List (Option String × Draft)} {outer : List Frame}
    (whole : HaveWhole (.object members :: outer)) :
    (closeContainer (.object members :: outer)).Sound := by
  obtain ⟨hmembers, houter⟩ := haveWhole_cons.1 whole
  have hclosed : (Frame.close true none (.object members)).Whole := by
    refine ⟨rfl, ?_⟩
    rintro _ _ ⟨⟩ m hm
    exact hmembers m (List.mem_reverse.1 hm)
  exact hclosed.sound_place houter

/-- A value starts. -/
theorem sound_openValue {frames : List Frame} (whole : HaveWhole frames) (t : Token) :
    (openValue frames t).Sound := by
  cases t with
  | openBracket => exact .firstItem whole
  | openBrace => exact .firstKey whole
  | null =>
    have hwhole : Draft.null.Whole := ⟨rfl, nofun⟩
    exact hwhole.sound_place whole
  | bool b =>
    have hwhole : (Draft.bool b).Whole := ⟨rfl, nofun⟩
    exact hwhole.sound_place whole
  | number n =>
    have hwhole : (Draft.number n).Whole := ⟨rfl, nofun⟩
    exact hwhole.sound_place whole
  | string text =>
    have hwhole : (Draft.string text).Whole := ⟨rfl, nofun⟩
    exact hwhole.sound_place whole
  | _ => exact .failed _

/-- A member starts. -/
theorem sound_openMember {frames : List Frame} (whole : HaveWhole frames) (key : Option String) :
    (openMember key frames).Sound := by
  unfold openMember
  split
  · next members outer =>
    obtain ⟨hmembers, houter⟩ := haveWhole_cons.1 whole
    exact .reading nofun nofun (haveWhole_cons.2 ⟨hmembers, houter⟩)
  · exact .failed _

/-- An array or object goes on or ends. -/
theorem sound_continueContainer {frames : List Frame} (whole : HaveWhole frames) (t : Token) :
    (continueContainer frames t).Sound := by
  unfold continueContainer
  split
  · exact .reading nofun nofun whole
  · exact sound_closeContainer_array (haveWhole_cons.1 whole).2
  · exact .reading nofun nofun whole
  · exact sound_closeContainer_object whole
  · exact .failed _

/-- One token leads from what is known to what is known. -/
theorem State.Sound.step {state : State} (h : state.Sound) (t : Token) :
    (Draft.step state t).Sound := by
  cases h with
  | complete _ => exact .trailing _
  | trailing _ => exact .trailing _
  | failed _ => exact .failed _
  | @firstItem outer whole =>
    have hframes : HaveWhole (.array [] :: outer) := haveWhole_cons.2 ⟨nofun, whole⟩
    have hopens := sound_openValue hframes t
    cases t with
    | closeBracket => exact sound_closeContainer_array whole
    | _ => exact hopens
  | @firstKey outer whole =>
    have hframes : HaveWhole (.object [] :: outer) := haveWhole_cons.2 ⟨nofun, whole⟩
    cases t with
    | closeBrace => exact sound_closeContainer_object hframes
    | string key => exact sound_openMember hframes key
    | _ => exact .failed _
  | @reading wanted frames noItem noKey whole =>
    cases wanted with
    | firstItem => exact absurd rfl noItem
    | firstKey => exact absurd rfl noKey
    | value => exact sound_openValue whole t
    | comma => exact sound_continueContainer whole t
    | key =>
      cases t with
      | string key => exact sound_openMember whole key
      | _ => exact .failed _
    | colon =>
      cases t with
      | colon => exact .reading nofun nofun whole
      | _ => exact .failed _

/-- What is known at the start is known of the state after all tokens. -/
theorem State.Sound.foldl {state : State} (h : state.Sound) (ts : List Token) :
    (ts.foldl Draft.step state).Sound := by
  induction ts generalizing state with
  | nil => exact h
  | cons t ts ih => exact ih (h.step t)

/-- A text that is one value is a whole value, and so are its members. -/
theorem whole_of_readText {cs : List Char} {d : Draft} (h : readText cs = .complete d) :
    d.Whole := by
  have hstart : (State.reading .value []).Sound := .reading nofun nofun nofun
  have hsound : (readText cs).Sound := hstart.foldl (Token.ofText cs)
  rw [h] at hsound
  cases hsound with
  | complete whole => exact whole

end Draft

namespace Shape

open Draft (readText)

variable {α β γ : Type} {s : Shape α β}

/-- A record that a text gives is what its value gives. -/
theorem ofDraft_of_ofText {cs : List Char} {b : β} (h : s.ofText cs = .ok b) :
    s.ofDraft (readText cs).value = .ok b := by
  unfold ofText at h
  split at h
  · obtain ⟨_, -, hthrow⟩ := bind_eq_ok.1 h
    cases hthrow
  · exact h

/-! ## What members are read to -/

/-- The first member is taken in: it has a name, and it is passed over whole, or its field has not
been set and reads it. -/
theorem takeMembers_cons_eq_ok {p p' : α} {key : Option String} {d : Draft}
    {members : List (Option String × Draft)} :
    s.takeMembers p ((key, d) :: members) = .ok p' ↔ ∃ name, key = some name ∧
      ((s.fields.find? (·.name = name) = none ∧ d.isWhole = true ∧
          s.takeMembers p members = .ok p') ∨
        ∃ f, s.fields.find? (·.name = name) = some f ∧ f.isSet p = false ∧
          ∃ q, f.read p d = .ok q ∧ s.takeMembers q members = .ok p') := by
  cases key with
  | none => simp [takeMembers]
  | some name =>
    rw [takeMembers]
    simp only [Option.some.injEq, exists_eq_left']
    cases s.fields.find? (·.name = name) with
    | none => cases d.isWhole <;> simp
    | some f =>
      cases hset : f.isSet p with
      | true => simp [hset]
      | false => simp [hset, bind_eq_ok, mapError_eq_ok]

/-- A part of a record is gathered from the members with a name: their field reads them to it, and
has been set if it is there, and no other field touches it. -/
structure Gathers (s : Shape α β) (name : String) (part : α → Option γ)
    (read : Draft → Except Fault γ) : Prop where
  known : ∃ f ∈ s.fields, f.name = name
  isSet : ∀ f ∈ s.fields, f.name = name → ∀ p, f.isSet p = (part p).isSome
  reads : ∀ f ∈ s.fields, f.name = name → ∀ p d p', f.read p d = .ok p' →
    ∃ x, read d = .ok x ∧ part p' = some x
  keeps : ∀ f ∈ s.fields, f.name ≠ name → ∀ p d p', f.read p d = .ok p' → part p' = part p

/-- A part that is there has no member any more, one that has a member is what the member is read
to, and one that has none stays as it is. -/
theorem Gathers.takeMembers {name : String} {part : α → Option γ} {read : Draft → Except Fault γ}
    (gathers : s.Gathers name part read) {members : List (Option String × Draft)} {p p' : α}
    (h : s.takeMembers p members = .ok p') :
    ((part p).isSome = true → ∀ d, (some name, d) ∉ members) ∧
      (∀ d, (some name, d) ∈ members → ∃ x, read d = .ok x ∧ part p' = some x) ∧
        ((∀ d, (some name, d) ∉ members) → part p' = part p) := by
  induction members generalizing p with
  | nil =>
    cases h
    simp
  | cons m members ih =>
    obtain ⟨key, d⟩ := m
    obtain ⟨name', rfl, ⟨hunknown, -, hrest⟩ | ⟨f, hfind, hset, q, hread, hrest⟩⟩ :=
      takeMembers_cons_eq_ok.1 h
    · have hne : name' ≠ name := by
        rintro rfl
        obtain ⟨f, hf, hname⟩ := gathers.known
        simpa [hname] using List.find?_eq_none.1 hunknown f hf
      simpa [hne.symm] using ih hrest
    · have hf : f ∈ s.fields := List.mem_of_find?_eq_some hfind
      have hname : f.name = name' := by simpa using List.find?_some hfind
      obtain ⟨hnoMore, hmember, hsame⟩ := ih hrest
      by_cases heq : name' = name
      · subst heq
        obtain ⟨x, hx, hpart⟩ := gathers.reads f hf hname p d q hread
        have hnone : ∀ d, (some name', d) ∉ members := hnoMore (by rw [hpart]; rfl)
        rw [gathers.isSet f hf hname] at hset
        refine ⟨by simp [hset], fun d' hd' => ?_, fun habsent => ?_⟩
        · obtain ⟨-, rfl⟩ : some name' = some name' ∧ d' = d := by
            simpa [hnone] using hd'
          exact ⟨x, hx, (hsame hnone).trans hpart⟩
        · exact absurd List.mem_cons_self (habsent d)
      · have hpart : part q = part p := gathers.keeps f hf (by rwa [hname]) p d q hread
        rw [hpart] at hnoMore hsame
        have hother : ∀ d', (some name, d') ∈ (some name', d) :: members ↔
            (some name, d') ∈ members := by
          simp [Ne.symm heq]
        simpa only [hother] using ⟨hnoMore, hmember, hsame⟩

/-- No field sets another one. -/
def Apart (s : Shape α β) : Prop :=
  ∀ f ∈ s.fields, ∀ g ∈ s.fields, f.name ≠ g.name →
    ∀ p d p', f.read p d = .ok p' → g.isSet p' = g.isSet p

/-- Members with distinct names are taken in if their fields are not set and read them, and the
others are whole. -/
theorem exists_takeMembers (apart : s.Apart) {members : List (Option String × Draft)} {p : α}
    (named : ∀ m ∈ members, m.1 ≠ none) (distinct : (members.map (·.1)).Nodup)
    (whole : ∀ m ∈ members, m.2.isWhole = true)
    (unset : ∀ f ∈ s.fields, some f.name ∈ members.map (·.1) → f.isSet p = false)
    (reads : ∀ f ∈ s.fields, ∀ d, (some f.name, d) ∈ members → ∀ p, ∃ p', f.read p d = .ok p') :
    ∃ p', s.takeMembers p members = .ok p' := by
  induction members generalizing p with
  | nil => exact ⟨p, rfl⟩
  | cons m members ih =>
    obtain ⟨key, d⟩ := m
    obtain ⟨hnamed, hnamedRest⟩ := List.forall_mem_cons.1 named
    obtain ⟨hwhole, hwholeRest⟩ := List.forall_mem_cons.1 whole
    obtain ⟨hfresh, hdistinct⟩ := List.nodup_cons.1 distinct
    have hreads : ∀ f ∈ s.fields, ∀ d, (some f.name, d) ∈ members →
        ∀ p, ∃ p', f.read p d = .ok p' :=
      fun f hf d hd => reads f hf d (List.mem_cons_of_mem _ hd)
    obtain ⟨name, rfl⟩ := Option.ne_none_iff_exists'.1 hnamed
    cases hfind : s.fields.find? (·.name = name) with
    | none =>
      have hunset : ∀ f ∈ s.fields, some f.name ∈ members.map (·.1) → f.isSet p = false :=
        fun f hf hname => unset f hf (List.mem_cons_of_mem _ hname)
      obtain ⟨p', hrest⟩ := ih hnamedRest hdistinct hwholeRest hunset hreads
      exact ⟨p', takeMembers_cons_eq_ok.2 ⟨name, rfl, .inl ⟨hfind, hwhole, hrest⟩⟩⟩
    | some f =>
      have hf : f ∈ s.fields := List.mem_of_find?_eq_some hfind
      have hname : f.name = name := by simpa using List.find?_some hfind
      subst hname
      obtain ⟨q, hread⟩ := reads f hf d List.mem_cons_self p
      -- A later member has another name, so its field is set by this one no more than before.
      have hunset : ∀ g ∈ s.fields, some g.name ∈ members.map (·.1) → g.isSet q = false := by
        intro g hg hgname
        have hne : f.name ≠ g.name := by
          intro heq
          rw [← heq] at hgname
          exact hfresh hgname
        rw [apart f hf g hg hne p d q hread]
        exact unset g hg (List.mem_cons_of_mem _ hgname)
      obtain ⟨p', hrest⟩ := ih hnamedRest hdistinct hwholeRest hunset hreads
      have hset : f.isSet p = false := unset f hf List.mem_cons_self
      exact ⟨p', takeMembers_cons_eq_ok.2 ⟨f.name, rfl, .inr ⟨f, hfind, hset, q, hread, hrest⟩⟩⟩

end Shape

end Rulebook.Json
