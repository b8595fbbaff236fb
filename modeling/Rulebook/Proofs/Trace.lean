import Mathlib.Data.List.Nodup
import Rulebook.Proofs.Evaluation

/-!
# What a trace says

The nodes of a tree are known by their places: the sides to take from the root (`subtree?`). A
trace has one line for each node (`walk_true`), a join behind its two sides (`nodes`), with the path
of the node and with the results that the subtree and its sides have by themselves. The conditions
that are kept are those of the leaves that hold, from left to right (`leafPlaces`).

The proof is by induction on the tree, for every path to start from and for every log to add to.
That the paths differ is seen from the places: `path` is injective, since the names of the two sides
differ in their second character.
-/

namespace Rulebook.Tree

/-- A side of a join. -/
inductive Side where
  | left
  | right
  deriving DecidableEq, Repr

/-- What a step to a side adds to a path. -/
def Side.step : Side → String
  | .left => ".left"
  | .right => ".right"

/-- Where a node stands: the sides to take from the root. -/
abbrev Place := List Side

/-- The path of a place, from a path for the root of the tree. -/
def pathFrom (path : String) : Place → String
  | [] => path
  | side :: place => pathFrom (path ++ side.step) place

/-- The path of a place. -/
def Place.path (place : Place) : String := pathFrom "root" place

/-- The tree at a place, unless the place is outside. -/
def subtree? : Tree → Place → Option Tree
  | t, [] => some t
  | .node _ left _, .left :: place => left.subtree? place
  | .node _ _ right, .right :: place => right.subtree? place
  | .leaf _, _ :: _ => none

/-- What has places in the tree on a side of a join, with the places in the join. -/
def onSide {α : Type} (side : Side) (xs : List (Place × α)) : List (Place × α) :=
  xs.map fun x => (side :: x.1, x.2)

/-- The nodes of a tree with their places: those of the left side, those of the right side, and the
node on top. -/
def nodes : Tree → List (Place × Tree)
  | .leaf c => [([], .leaf c)]
  | .node k left right =>
    onSide .left left.nodes ++ onSide .right right.nodes ++ [([], .node k left right)]

/-- The condition of a node that is a leaf, with its place. -/
def condition? : Place × Tree → Option (Place × Condition)
  | (place, .leaf c) => some (place, c)
  | (_, .node _ _ _) => none

/-- The leaves of a tree with their places. -/
def leafPlaces (t : Tree) : List (Place × Condition) := t.nodes.filterMap condition?

/-- The result of an evaluation without a trace. -/
def result (record : Record) (t : Tree) : Bool := (t.execute false record).isMatch

/-- The leaves that hold by themselves, with their places. -/
def matchedLeaves (record : Record) (t : Tree) : List (Place × Condition) :=
  t.leafPlaces.filter fun leaf => result record (.leaf leaf.2)

/-- The line for a join with these results at a path. -/
def joinLine (path : String) (k : Connective) (l r isMatch : Bool) : String :=
  s!"{path}: {k.keyword} (left={l}, right={r}) => {verdict isMatch}"

/-- The line for a tree at a path, with the results that it and its sides have by themselves. -/
def line (record : Record) (path : String) : Tree → String
  | .leaf c => s!"{path}: {c.text} => {verdict (result record (.leaf c))}"
  | .node k left right =>
    joinLine path k (result record left) (result record right)
      (result record (.node k left right))

/-- The line for the condition of a leaf that holds. -/
def matchLine (path : String) (c : Condition) : String := s!"{path}: {c.text}"

/-! ## Places -/

/-- A path goes on with the steps of the place. -/
theorem toList_pathFrom (path : String) (place : Place) :
    (pathFrom path place).toList = path.toList ++ place.flatMap (·.step.toList) := by
  induction place generalizing path with
  | nil => simp [pathFrom]
  | cons side place ih => simp [pathFrom, ih]

/-- Steps that read the same are the same. -/
theorem flatMap_step_injective :
    Function.Injective fun place : Place => place.flatMap (·.step.toList) := by
  intro place place' h
  induction place generalizing place' with
  | nil =>
    cases place' with
    | nil => rfl
    | cons side' place' => cases side' <;> simp [Side.step] at h
  | cons side place ih =>
    cases place' with
    | nil => cases side <;> simp [Side.step] at h
    | cons side' place' =>
      cases side <;> cases side' <;> simp [Side.step] at h
      · rw [ih h]
      · rw [ih h]

/-- Different places have different paths. -/
theorem path_injective : Function.Injective Place.path := by
  intro place place' h
  have hlists := congrArg String.toList h
  rw [Place.path, Place.path, toList_pathFrom, toList_pathFrom] at hlists
  exact flatMap_step_injective (List.append_cancel_left hlists)

/-- What is made of the things on a side. -/
theorem map_onSide {α β : Type} (side : Side) (xs : List (Place × α)) (f : Place × α → β) :
    (onSide side xs).map f = xs.map fun x => f (side :: x.1, x.2) := List.map_map

/-- Exactly the places inside a tree have nodes. -/
theorem mem_nodes_iff {t node : Tree} {place : Place} :
    (place, node) ∈ t.nodes ↔ t.subtree? place = some node := by
  induction t generalizing place with
  | leaf c =>
    cases place with
    | nil => simp [nodes, subtree?, eq_comm]
    | cons side place => simp [nodes, subtree?]
  | node k left right ihl ihr =>
    cases place with
    | nil => simp [nodes, onSide, subtree?, eq_comm]
    | cons side place => cases side <;> simp [nodes, onSide, subtree?, ← ihl, ← ihr]

/-- No place has two nodes. -/
theorem nodup_places (t : Tree) : (t.nodes.map (·.1)).Nodup := by
  induction t with
  | leaf c => exact List.nodup_singleton _
  | node k left right ihl ihr =>
    -- A place on one side is none on the other, and the root is on neither.
    have hside {side : Side} {nodes : List (Place × Tree)} (h : (nodes.map (·.1)).Nodup) :
        ((onSide side nodes).map (·.1)).Nodup := by
      have hinjective : Function.Injective (side :: · : Place → Place) :=
        fun _ _ heq => (List.cons.inj heq).2
      have hplaces := h.map hinjective
      rw [map_onSide]
      rwa [List.map_map] at hplaces
    rw [nodes, List.map_append, List.map_append, List.map_singleton]
    refine List.Nodup.append ((hside ihl).append (hside ihr) ?_) (List.nodup_singleton _) ?_
    · intro place hleft hright
      rw [map_onSide] at hleft hright
      obtain ⟨node, -, rfl⟩ := List.mem_map.1 hleft
      obtain ⟨node', -, heq⟩ := List.mem_map.1 hright
      cases heq
    · intro place hsides hroot
      cases List.mem_singleton.1 hroot
      rw [map_onSide, map_onSide] at hsides
      simp at hsides

/-- A tree has one join less than leaves. -/
theorem length_nodes (t : Tree) : t.nodes.length + 1 = 2 * t.leafCount := by
  induction t with
  | leaf c => rfl
  | node k left right ihl ihr =>
    simp only [nodes, onSide, leafCount, List.length_append, List.length_map, List.length_singleton]
    omega

/-- The last node is the root. -/
theorem getLast?_nodes (t : Tree) : t.nodes.getLast? = some ([], t) := by
  cases t with
  | leaf c => rfl
  | node k left right => rw [nodes, List.getLast?_concat]

/-- The leaves of a join are those of its sides. -/
theorem leafPlaces_node (k : Connective) (left right : Tree) :
    (node k left right).leafPlaces =
      onSide .left left.leafPlaces ++ onSide .right right.leafPlaces := by
  have hside (side : Side) (nodes : List (Place × Tree)) :
      (onSide side nodes).filterMap condition? = onSide side (nodes.filterMap condition?) := by
    rw [onSide, onSide, List.filterMap_map, List.map_filterMap]
    refine List.filterMap_congr fun ⟨place, t⟩ _ => ?_
    cases t <;> rfl
  rw [leafPlaces, nodes, List.filterMap_append, List.filterMap_append, hside, hside]
  exact List.append_nil _

/-- The leaves come from left to right. -/
theorem map_leafPlaces (t : Tree) : t.leafPlaces.map (·.2) = t.leaves := by
  induction t with
  | leaf c => rfl
  | node k left right ihl ihr =>
    rw [leafPlaces_node, List.map_append, map_onSide, map_onSide, ihl, ihr, leaves]

/-! ## Evaluations -/

/-- The result of an evaluation is the verdict of the tree. -/
theorem result_eq (record : Record) (t : Tree) : result record t = t.holds record :=
  isMatch_execute false record t

/-- Without a trace nothing is kept. -/
theorem walk_false (record : Record) (path : String) (t : Tree) (log : Log) :
    t.walk false record path log = (t.holds record, log) := by
  induction t generalizing path log with
  | leaf c => rfl
  | node k left right ihl ihr =>
    simp only [walk, holds, ihl, ihr]
    rfl

/-- The leaves of a join that hold are those of its sides. -/
theorem matchedLeaves_node (record : Record) (k : Connective) (left right : Tree) :
    matchedLeaves record (node k left right) =
      onSide .left (matchedLeaves record left) ++ onSide .right (matchedLeaves record right) := by
  rw [matchedLeaves, leafPlaces_node, List.filter_append, onSide, onSide, List.filter_map,
    List.filter_map]
  rfl

/-- The line for a join, with the verdicts of its sides. -/
theorem line_node (record : Record) (path : String) (k : Connective) (left right : Tree) :
    line record path (node k left right) =
      joinLine path k (left.holds record) (right.holds record)
        (k.join (left.holds record) (right.holds record)) := by
  rw [line, result_eq, result_eq, result_eq, holds]

/-- A trace adds a line for every node, and one for every leaf that holds. -/
theorem walk_true (record : Record) (path : String) (t : Tree) (log : Log) :
    t.walk true record path log =
      (t.holds record,
        ⟨log.conditions ++ (matchedLeaves record t).map
            (fun leaf => matchLine (pathFrom path leaf.1) leaf.2),
          log.lines ++ t.nodes.map fun node => line record (pathFrom path node.1) node.2⟩) := by
  induction t generalizing path log with
  | leaf c =>
    have hresult : result record (.leaf c) = c.holds record := result_eq record _
    have hleaves : (leaf c).leafPlaces = [([], c)] := rfl
    rw [walk, matchedLeaves, hleaves, nodes, List.map_singleton, pathFrom, line, hresult, holds]
    cases hholds : c.holds record <;> simp [hresult, hholds, matchLine, pathFrom]
  | node k left right ihl ihr =>
    -- On a side the path to start from is the path of the join with the step to the side.
    simp only [matchedLeaves_node, nodes, List.map_append, map_onSide, pathFrom, List.map_cons,
      List.map_nil, line_node, holds]
    simp only [walk, if_true, ihl, ihr, List.append_assoc, Side.step, joinLine]

/-- A tree that holds has a leaf that holds. -/
theorem exists_leaf_of_holds {record : Record} {t : Tree} (h : t.holds record = true) :
    ∃ c ∈ t.leaves, c.holds record = true := by
  induction t with
  | leaf c => exact ⟨c, List.mem_singleton_self c, h⟩
  | node k left right ihl ihr =>
    rw [holds] at h
    cases k with
    | and =>
      obtain ⟨c, hc, hholds⟩ := ihl (Bool.and_eq_true_iff.1 h).1
      exact ⟨c, List.mem_append_left _ hc, hholds⟩
    | or =>
      rcases (Bool.or_eq_true_iff).1 h with h | h
      · obtain ⟨c, hc, hholds⟩ := ihl h
        exact ⟨c, List.mem_append_left _ hc, hholds⟩
      · obtain ⟨c, hc, hholds⟩ := ihr h
        exact ⟨c, List.mem_append_right _ hc, hholds⟩
    | unsupported keyword => cases h

/-- An evaluation comes to the same result with a trace as without one, where nothing is kept. The
trace has one line for each node of the tree, the sides of a join in front of it and the root last,
with the path of its place, which no other node has, and with the results that the subtree and its
sides have by themselves. The conditions kept are those of the leaves that hold, from left to right,
with the same paths, and there is one if the tree matches. -/
theorem execute_trace (record : Record) (t : Tree) :
    (t.execute true record).isMatch = (t.execute false record).isMatch ∧
    (t.execute false record).log = ⟨[], []⟩ ∧
    (t.execute true record).log.lines =
      t.nodes.map (fun node => line record node.1.path node.2) ∧
    (t.execute true record).log.lines.length = 2 * t.leafCount - 1 ∧
    (t.execute true record).log.lines.getLast? = some (line record "root" t) ∧
    (∀ place node, (place, node) ∈ t.nodes ↔ t.subtree? place = some node) ∧
    (t.nodes.map (·.1.path)).Nodup ∧
    (t.execute true record).log.conditions =
      (t.leafPlaces.filter fun leaf => result record (.leaf leaf.2)).map
        (fun leaf => matchLine leaf.1.path leaf.2) ∧
    t.leafPlaces.map (·.2) = t.leaves ∧
    ((t.execute true record).isMatch = true → (t.execute true record).log.conditions ≠ []) := by
  have hplain : t.execute false record = ⟨t.holds record, ⟨[], []⟩⟩ := by
    rw [execute, walk_false]
  have htraced : t.execute true record =
      ⟨t.holds record, ⟨(t.leafPlaces.filter fun leaf => result record (.leaf leaf.2)).map
          (fun leaf => matchLine leaf.1.path leaf.2),
        t.nodes.map fun node => line record node.1.path node.2⟩⟩ := by
    rw [execute, walk_true]
    rfl
  rw [htraced, hplain]
  refine ⟨rfl, rfl, rfl, ?_, ?_, fun _ _ => mem_nodes_iff, ?_, rfl, map_leafPlaces t, ?_⟩
  · have hlength := length_nodes t
    dsimp only
    rw [List.length_map]
    omega
  · dsimp only
    rw [List.getLast?_map, getLast?_nodes]
    rfl
  · have hpaths := (nodup_places t).map path_injective
    rwa [List.map_map] at hpaths
  · intro hmatch
    obtain ⟨c, hc, hholds⟩ := exists_leaf_of_holds hmatch
    rw [← map_leafPlaces] at hc
    obtain ⟨leaf, hleaf, rfl⟩ := List.mem_map.1 hc
    have hkept : leaf ∈ t.leafPlaces.filter fun leaf => result record (.leaf leaf.2) :=
      List.mem_filter.2 ⟨hleaf, (result_eq record (.leaf leaf.2)).trans hholds⟩
    exact List.ne_nil_of_mem (List.mem_map_of_mem hkept)

/-- A leaf that holds is kept also below a connective that is not known, which does not hold
whatever its sides do. -/
theorem execute_trace_unsupported :
    let t : Tree := .node .or
      (.node (.unsupported "XOR") (.leaf ⟨"a", .gt, .text "x"⟩) (.leaf ⟨"b", .lt, .text "y"⟩))
      (.leaf ⟨"c", .ge, .text "z"⟩)
    let e := t.execute true [("a", .string "y"), ("c", .string "z")]
    e.isMatch = true ∧ e.log.conditions ≠ [] ∧
      e.log.conditions = ["root.left.left: a > 'x'", "root.right: c >= 'z'"] ∧
      e.log.lines = ["root.left.left: a > 'x' => MATCHED",
        "root.left.right: b < 'y' => NOT_MATCHED",
        "root.left: XOR (left=true, right=false) => NOT_MATCHED", "root.right: c >= 'z' => MATCHED",
        "root: OR (left=false, right=true) => MATCHED"] := by
  intro t e
  obtain ⟨-, -, hlines, -, -, -, -, hconditions, -, hkept⟩ :=
    execute_trace [("a", .string "y"), ("c", .string "z")] t
  have hmatch : e.isMatch = true := by decide +kernel
  refine ⟨hmatch, hkept hmatch, hconditions.trans ?_, hlines.trans ?_⟩
  · decide +kernel
  · decide +kernel

end Rulebook.Tree
