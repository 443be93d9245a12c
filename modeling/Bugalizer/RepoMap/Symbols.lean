import Bugalizer.Forest

/-!
# The symbols of a syntax tree

The walk over a parsed file, and what it lists: each definition that lies in no other function,
once, in the order of the text, under the class it stands in.
-/

namespace Bugalizer.RepoMap

set_option autoImplicit false

open Forest

/-- A node as the parser gives it; a node without a text has the empty one. -/
inductive Node where
  | mk (type : String) (text : List Char) (row : Nat) (children : List Node)

namespace Node

def type : Node → String
  | mk type _ _ _ => type

def text : Node → List Char
  | mk _ text _ _ => text

def row : Node → Nat
  | mk _ _ row _ => row

def children : Node → List Node
  | mk _ _ _ children => children

end Node

inductive NodeKind where
  | functionDef | classDef | importLine | other
deriving DecidableEq, Repr

def functionTypes : List String :=
  ["function_definition", "function_declaration", "function_item", "method_declaration",
    "method_definition"]

def classTypes : List String := ["class_definition", "class_declaration", "impl_item"]

def importTypes : List String := ["import_statement", "import_from_statement", "import_declaration"]

def kindOf (type : String) : NodeKind :=
  if functionTypes.contains type then .functionDef
  else if classTypes.contains type then .classDef
  else if importTypes.contains type then .importLine
  else .other

def Node.kind (node : Node) : NodeKind := kindOf node.type

def nonEmpty (text : List Char) : Option (List Char) := if text = [] then none else some text

/-- `_get_name`: the first child that is a name; an empty text is none. -/
def getName (node : Node) : Option (List Char) :=
  (node.children.find? fun child => ["identifier", "name", "type_identifier"].contains child.type).bind
    fun child => nonEmpty child.text

def parameterTypes : List String :=
  ["identifier", "parameter", "typed_parameter", "default_parameter", "typed_default_parameter",
    "formal_parameter"]

def receivers : List (List Char) := ["self".toList, "cls".toList, "this".toList]

def countParams (node : Node) : Nat :=
  match node.children.find? fun child =>
      ["parameters", "formal_parameters", "parameter_list"].contains child.type with
  | none => 0
  | some parameters =>
      parameters.children.countP fun param =>
        parameterTypes.contains param.type && !receivers.contains param.text

structure FunctionEntry where
  name : List Char
  line : Nat
  params : Nat
  className : Option (List Char)
deriving DecidableEq

structure ClassEntry where
  name : List Char
  line : Nat
  methods : List (List Char)
deriving DecidableEq

structure FileSymbols where
  path : List Char
  classes : List ClassEntry := []
  functions : List FunctionEntry := []
  imports : List (List Char) := []
deriving DecidableEq

def functionEntry (className : Option (List Char)) (node : Node) (name : List Char) : FunctionEntry :=
  { name, line := node.row + 1, params := countParams node, className }

mutual

/-- `_walk_node`, with so many calls left on the interpreter's stack; `none` is a `RecursionError`. -/
def walkNode : Nat → FileSymbols → Option (List Char) → Node → Option FileSymbols
  | 0, _, _, _ => none
  | frames + 1, symbols, className, .mk _ _ _ children => walkChildren frames symbols className children
termination_by frames => (frames, 0)

def walkChildren (frames : Nat) (symbols : FileSymbols) (className : Option (List Char)) :
    List Node → Option FileSymbols
  | [] => some symbols
  | child :: rest =>
      (walkChild frames symbols className child).bind fun symbols =>
        walkChildren frames symbols className rest
termination_by forest => (frames, forest.length + 2)

/-- One turn of the loop. `_get_name`, `_count_params` and `FileSymbols` are calls of their own. -/
def walkChild (frames : Nat) (symbols : FileSymbols) (className : Option (List Char)) (child : Node) :
    Option FileSymbols :=
  match child.kind with
  | .functionDef =>
      if frames = 0 then none
      else match getName child with
        | none => some symbols
        | some name =>
            some { symbols with functions := symbols.functions ++ [functionEntry className child name] }
  | .classDef =>
      if frames = 0 then none
      else match getName child with
        | none => some symbols
        | some name =>
            (walkNode frames { path := [] } (some name) child).map fun inner =>
              { symbols with
                classes := symbols.classes ++
                  [{ name, line := child.row + 1, methods := inner.functions.map FunctionEntry.name }]
                functions := symbols.functions ++ inner.functions }
  | .importLine =>
      some (if child.text = [] then symbols
        else { symbols with imports := symbols.imports ++ [child.text] })
  | .other => walkNode frames symbols className child
termination_by (frames, 1)

end

def classOf (node : Node) : Option (List Char) := if node.kind = .classDef then getName node else none

/-- The name of the innermost class among the nodes above. -/
def enclosing (between : List Node) : Option (List Char) := (between.filterMap classOf).getLast?

/-- A node the walk looks into: neither a definition of a function, nor an import, nor a class
without a name. -/
def Entered (node : Node) : Prop := node.kind = .other ∨ (classOf node).isSome

def Plain (node : Node) : Prop := node.kind = .other

def FunctionMark (className : Option (List Char)) (between : List Node) (node : Node)
    (entry : FunctionEntry) : Prop :=
  node.kind = .functionDef ∧
    ∃ name, getName node = some name ∧ functionEntry ((enclosing between).or className) node name = entry

/-- A function inside no other, under the innermost class around it. -/
def FunctionAt (className : Option (List Char)) : List Node → Place → FunctionEntry → Prop :=
  Found Node.children Entered (FunctionMark className)

def ClassMark (_ : List Node) (node : Node) (entry : ClassEntry) : Prop :=
  classOf node = some entry.name ∧ entry.line = node.row + 1 ∧
    Listing (fun place method => ∃ found, FunctionAt none node.children place found ∧ found.name = method)
      entry.methods

def ClassAt : List Node → Place → ClassEntry → Prop := Found Node.children Plain ClassMark

def ImportMark (_ : List Node) (node : Node) (text : List Char) : Prop :=
  node.kind = .importLine ∧ text ≠ [] ∧ node.text = text

def ImportAt : List Node → Place → List Char → Prop := Found Node.children Plain ImportMark

/-- The symbols of a file, by what is listed. -/
structure SymbolsOf (path : List Char) (root : Node) (symbols : FileSymbols) : Prop where
  path : symbols.path = path
  functions : Listing (FunctionAt none root.children) symbols.functions
  classes : Listing (ClassAt root.children) symbols.classes
  imports : Listing (ImportAt root.children) symbols.imports

/-- How many nodes stand above a node that the walk calls something for. -/
def DepthMark (between : List Node) (node : Node) (depth : Nat) : Prop :=
  node.kind ≠ .importLine ∧ between.length = depth

def DepthAt : List Node → Place → Nat → Prop := Found Node.children Entered DepthMark

/-- For each node that the walk over a forest looks at, imports apart, there is a call left. -/
def Room (frames : Nat) (forest : List Node) : Prop :=
  ∀ place depth, DepthAt forest place depth → depth < frames

/-- The stack has room for the walk over a tree. -/
def Fits (frames : Nat) (root : Node) : Prop := 0 < frames ∧ Room (frames - 1) root.children

def FileSymbols.adding (symbols : FileSymbols) (functions : List FunctionEntry)
    (classes : List ClassEntry) (imports : List (List Char)) : FileSymbols :=
  { symbols with
    functions := symbols.functions ++ functions
    classes := symbols.classes ++ classes
    imports := symbols.imports ++ imports }

structure Adds (className : Option (List Char)) (forest : List Node) (functions : List FunctionEntry)
    (classes : List ClassEntry) (imports : List (List Char)) : Prop where
  functions : Listing (FunctionAt className forest) functions
  classes : Listing (ClassAt forest) classes
  imports : Listing (ImportAt forest) imports

theorem enclosing_cons (className : Option (List Char)) (child : Node) (between : List Node) :
    (enclosing (child :: between)).or className =
      (enclosing between).or ((classOf child).or className) := by
  rw [enclosing, enclosing, List.filterMap_cons]
  cases classOf child with
  | none => simp
  | some name =>
      rw [List.getLast?_cons]
      cases (between.filterMap classOf).getLast? <;> simp

/-- Seen from a node further up, a function below is a function below. -/
theorem function_mark_cons (className : Option (List Char)) (child : Node) :
    (fun between => FunctionMark className (child :: between)) =
      FunctionMark ((classOf child).or className) := by
  funext between node entry
  simp only [FunctionMark, enclosing_cons]

/-- The class around a function decides its `class` alone. -/
theorem function_at_name (className other : Option (List Char)) (forest : List Node) (place : Place)
    (method : List Char) :
    (∃ entry, FunctionAt className forest place entry ∧ entry.name = method) ↔
      ∃ entry, FunctionAt other forest place entry ∧ entry.name = method := by
  have one : ∀ first second : Option (List Char),
      (∃ entry, FunctionAt first forest place entry ∧ entry.name = method) →
        ∃ entry, FunctionAt second forest place entry ∧ entry.name = method := by
    intro first second
    rintro ⟨entry, ⟨between, node, below, entered, kind, name, named, rfl⟩, same⟩
    exact ⟨_, ⟨between, node, below, entered, kind, name, named, rfl⟩, same⟩
  exact ⟨one className other, one other className⟩

theorem adds_nil (className : Option (List Char)) : Adds className [] [] [] [] where
  functions := listing_none found_nil
  classes := listing_none found_nil
  imports := listing_none found_nil

/-- What one child adds: an entry of its own, and what lies in it. -/
structure Turn (className : Option (List Char)) (child : Node) (function : Option FunctionEntry)
    (within : List FunctionEntry) (own : Option ClassEntry) (text : Option (List Char))
    (classes : List ClassEntry) (imports : List (List Char)) : Prop where
  function : ∀ entry, FunctionMark className [] child entry ↔ function = some entry
  within : Listing (fun place entry => Entered child ∧
    FunctionAt ((classOf child).or className) child.children place entry) within
  own : ∀ entry, ClassMark [] child entry ↔ own = some entry
  classes : Listing (fun place entry => Plain child ∧ ClassAt child.children place entry) classes
  text : ∀ entry, ImportMark [] child entry ↔ text = some entry
  imports : Listing (fun place entry => Plain child ∧ ImportAt child.children place entry) imports

theorem adds_cons {className : Option (List Char)} {child : Node} {rest : List Node}
    {function : Option FunctionEntry} {own : Option ClassEntry} {text : Option (List Char)}
    {within functions : List FunctionEntry} {classes others : List ClassEntry}
    {imports texts : List (List Char)}
    (turn : Turn className child function within own text classes imports)
    (after : Adds className rest functions others texts) :
    Adds className (child :: rest) (function.toList ++ within ++ functions)
      (own.toList ++ classes ++ others) (text.toList ++ imports ++ texts) where
  functions := by
    apply listing_cons turn.function _ after.functions
    rw [function_mark_cons]
    exact turn.within
  classes := listing_cons turn.own turn.classes after.classes
  imports := listing_cons turn.text turn.imports after.imports

theorem listing_passed {Entry : Type} {Blocked : Prop} (never : ¬ Blocked) (At : Place → Entry → Prop) :
    Listing (fun place entry => Blocked ∧ At place entry) [] :=
  listing_none fun _ _ stands => never stands.1

theorem class_of_other (child : Node) (kind : child.kind ≠ .classDef) : classOf child = none := if_neg kind

theorem not_entered {child : Node} (kind : child.kind ≠ .other) (unnamed : classOf child = none) :
    ¬ Entered child := by
  intro entered
  cases entered with
  | inl other => exact kind other
  | inr named =>
      rw [unnamed] at named
      cases named

theorem turn_function {className : Option (List Char)} {child : Node} (kind : child.kind = .functionDef) :
    Turn className child ((getName child).map (functionEntry className child)) [] none none [] [] where
  function := by
    intro entry
    simp only [FunctionMark, kind, true_and, Option.map_eq_some_iff]
    exact Iff.rfl
  within := listing_passed (not_entered (by simp [kind]) (class_of_other child (by simp [kind]))) _
  own := by
    intro entry
    simp [ClassMark, class_of_other child (by simp [kind])]
  classes := listing_passed (by simp [Plain, kind]) _
  text := by
    intro entry
    simp [ImportMark, kind]
  imports := listing_passed (by simp [Plain, kind]) _

theorem turn_unnamed {className : Option (List Char)} {child : Node} (kind : child.kind = .classDef)
    (unnamed : getName child = none) : Turn className child none [] none none [] [] where
  function := by
    intro entry
    simp [FunctionMark, kind]
  within := listing_passed (not_entered (by simp [kind]) (by simp [classOf, unnamed])) _
  own := by
    intro entry
    simp [ClassMark, classOf, unnamed]
  classes := listing_passed (by simp [Plain, kind]) _
  text := by
    intro entry
    simp [ImportMark, kind]
  imports := listing_passed (by simp [Plain, kind]) _

theorem turn_class {className : Option (List Char)} {child : Node} {name : List Char}
    (kind : child.kind = .classDef) (named : getName child = some name) {functions : List FunctionEntry}
    (inner : Listing (FunctionAt (some name) child.children) functions) :
    Turn className child none functions
      (some { name, line := child.row + 1, methods := functions.map FunctionEntry.name }) none [] [] where
  function := by
    intro entry
    simp [FunctionMark, kind]
  within := by
    have here : classOf child = some name := by simp [classOf, kind, named]
    have entered : Entered child := Or.inr (by simp [here])
    rw [here, Option.some_or]
    exact listing_congr (fun _ _ => (and_iff_right entered).symm) inner
  own := by
    have methods : Listing (fun place method =>
        ∃ found, FunctionAt none child.children place found ∧ found.name = method)
        (functions.map FunctionEntry.name) :=
      listing_congr (function_at_name (some name) none child.children)
        (listing_map FunctionEntry.name inner)
    intro entry
    have here : classOf child = some name := by simp [classOf, kind, named]
    rw [ClassMark, here]
    constructor
    · rintro ⟨same, line, listed⟩
      have equal := listing_unique methods listed
      cases entry
      cases same
      simp_all
    · intro same
      cases same
      exact ⟨rfl, rfl, methods⟩
  classes := listing_passed (by simp [Plain, kind]) _
  text := by
    intro entry
    simp [ImportMark, kind]
  imports := listing_passed (by simp [Plain, kind]) _

theorem turn_import {className : Option (List Char)} {child : Node} (kind : child.kind = .importLine) :
    Turn className child none [] none (nonEmpty child.text) [] [] where
  function := by
    intro entry
    simp [FunctionMark, kind]
  within := listing_passed (not_entered (by simp [kind]) (class_of_other child (by simp [kind]))) _
  own := by
    intro entry
    simp [ClassMark, class_of_other child (by simp [kind])]
  classes := listing_passed (by simp [Plain, kind]) _
  text := by
    intro entry
    simp only [ImportMark, kind, true_and, nonEmpty]
    split
    · rename_i empty
      rw [empty]
      simp only [reduceCtorEq, iff_false, not_and]
      intro filled same
      exact filled same.symm
    · rename_i filled
      rw [Option.some.injEq]
      constructor
      · intro both
        exact both.2
      · rintro rfl
        exact ⟨filled, rfl⟩
  imports := listing_passed (by simp [Plain, kind]) _

theorem turn_other {className : Option (List Char)} {child : Node} (kind : child.kind = .other)
    {functions : List FunctionEntry} {classes : List ClassEntry} {imports : List (List Char)}
    (inner : Adds className child.children functions classes imports) :
    Turn className child none functions none none classes imports where
  function := by
    intro entry
    simp [FunctionMark, kind]
  within := by
    have entered : Entered child := Or.inl kind
    rw [class_of_other child (by simp [kind]), Option.none_or]
    exact listing_congr (fun _ _ => (and_iff_right entered).symm) inner.functions
  own := by
    intro entry
    simp [ClassMark, class_of_other child (by simp [kind])]
  classes := listing_congr (fun _ _ => (and_iff_right kind).symm) inner.classes
  text := by
    intro entry
    simp [ImportMark, kind]
  imports := listing_congr (fun _ _ => (and_iff_right kind).symm) inner.imports

theorem adding_adding (symbols : FileSymbols) (functions more : List FunctionEntry)
    (classes others : List ClassEntry) (imports texts : List (List Char)) :
    (symbols.adding functions classes imports).adding more others texts =
      symbols.adding (functions ++ more) (classes ++ others) (imports ++ texts) := by
  simp [FileSymbols.adding]

theorem walk_node_children (frames : Nat) (symbols : FileSymbols) (className : Option (List Char)) (node : Node) :
    walkNode (frames + 1) symbols className node = walkChildren frames symbols className node.children := by
  cases node
  rw [walkNode]
  rfl

theorem children_smaller (node : Node) : sizeOf node.children < sizeOf node := by
  cases node
  simp only [Node.children, Node.mk.sizeOf_spec]
  omega

theorem room_nil (frames : Nat) : Room frames [] := by
  intro place depth deep
  exact absurd deep (found_nil place depth)

theorem room_below {frames : Nat} {child : Node} :
    (∀ place depth, Found Node.children Entered (fun between => DepthMark (child :: between)) child.children place
      depth → depth < frames + 1) ↔ Room frames child.children := by
  constructor
  · intro room place depth deep
    obtain ⟨between, node, below, passed, kind, rfl⟩ := deep
    have bound := room place (between.length + 1) ⟨between, node, below, passed, kind, rfl⟩
    omega
  · intro room place depth deep
    obtain ⟨between, node, below, passed, kind, rfl⟩ := deep
    have bound := room place between.length ⟨between, node, below, passed, kind, rfl⟩
    rw [List.length_cons]
    omega

theorem room_cons {frames : Nat} {child : Node} {rest : List Node} :
    Room frames (child :: rest) ↔
      ((child.kind ≠ .importLine → 0 < frames) ∧
        (Entered child → ∀ place depth, Found Node.children Entered (fun between => DepthMark (child :: between))
          child.children place depth → depth < frames)) ∧ Room frames rest := by
  constructor
  · intro room
    refine ⟨⟨?_, ?_⟩, ?_⟩
    · intro kind
      exact room [0] 0 (found_cons.mpr (Or.inl (Or.inl ⟨rfl, kind, rfl⟩)))
    · intro entered place depth deep
      exact room (0 :: place) depth (found_cons.mpr (Or.inl (Or.inr ⟨place, rfl, entered, deep⟩)))
    · intro place depth deep
      exact room _ depth (found_cons.mpr (Or.inr ⟨place, rfl, deep⟩))
  · rintro ⟨⟨own, within⟩, later⟩ place depth deep
    rcases found_cons.mp deep with (⟨-, kind, rfl⟩ | ⟨inner, -, entered, deep⟩) | ⟨further, -, deep⟩
    · exact own kind
    · exact within entered inner depth deep
    · exact later further depth deep

def TurnRoom (frames : Nat) (child : Node) : Prop :=
  (child.kind ≠ .importLine → 0 < frames) ∧
    (Entered child → ∀ place depth, Found Node.children Entered (fun between => DepthMark (child :: between))
      child.children place depth → depth < frames)

theorem turn_room_passed {frames : Nat} {child : Node} (closed : ¬ Entered child) :
    TurnRoom frames child ↔ (child.kind ≠ .importLine → 0 < frames) := by
  constructor
  · intro room
    exact room.1
  · intro own
    exact ⟨own, fun entered => absurd entered closed⟩

theorem turn_room_none {child : Node} (kind : child.kind ≠ .importLine) : ¬ TurnRoom 0 child :=
  fun room => absurd (room.1 kind) (lt_irrefl 0)

theorem turn_room_entered {left : Nat} {child : Node} (entered : Entered child) :
    TurnRoom (left + 1) child ↔ Room left child.children := by
  constructor
  · intro room
    exact room_below.mp (room.2 entered)
  · intro room
    exact ⟨fun _ => Nat.succ_pos _, fun _ => room_below.mpr room⟩

mutual

theorem walk_child_turn (frames : Nat) (symbols : FileSymbols) (className : Option (List Char)) (child : Node) :
    (¬ TurnRoom frames child ∧ walkChild frames symbols className child = none) ∨
      TurnRoom frames child ∧ ∃ function within own text classes imports,
        walkChild frames symbols className child =
            some (symbols.adding (function.toList ++ within) (own.toList ++ classes) (text.toList ++ imports)) ∧
          Turn className child function within own text classes imports := by
  rw [walkChild]
  cases kind : child.kind with
  | functionDef =>
      have closed := not_entered (by simp [kind]) (class_of_other child (by simp [kind]))
      rw [turn_room_passed closed]
      by_cases spent : frames = 0
      · left
        simp [spent, kind]
      · right
        refine ⟨fun _ => Nat.pos_of_ne_zero spent, _, [], none, none, [], [], ?_, turn_function kind⟩
        rw [if_neg spent]
        cases named : getName child with
        | none => simp [FileSymbols.adding]
        | some name => simp [FileSymbols.adding]
  | classDef =>
      cases named : getName child with
      | none =>
          have closed : ¬ Entered child := not_entered (by simp [kind]) (by simp [classOf, named])
          rw [turn_room_passed closed]
          by_cases spent : frames = 0
          · left
            simp [spent, kind]
          · right
            refine ⟨fun _ => Nat.pos_of_ne_zero spent, none, [], none, none, [], [], ?_, turn_unnamed kind named⟩
            simp [spent, FileSymbols.adding]
      | some name =>
          have entered : Entered child := Or.inr (by simp [classOf, kind, named])
          cases frames with
          | zero =>
              left
              exact ⟨turn_room_none (by simp [kind]), by simp⟩
          | succ left =>
              rw [turn_room_entered entered]
              rcases walk_children_adds left { path := [] } (some name) child.children with
                ⟨tight, walked⟩ | ⟨room, functions, classes, imports, walked, adds⟩
              · exact Or.inl ⟨tight, by simp [walk_node_children, walked]⟩
              · refine Or.inr ⟨room, none, functions, _, none, [], [], ?_,
                  turn_class kind named adds.functions⟩
                simp [walk_node_children, walked, FileSymbols.adding]
  | importLine =>
      have closed := not_entered (by simp [kind]) (class_of_other child (by simp [kind]))
      rw [turn_room_passed closed]
      refine Or.inr ⟨fun other => absurd kind other, none, [], none, _, [], [], ?_, turn_import kind⟩
      by_cases empty : child.text = []
      · simp [FileSymbols.adding, nonEmpty, empty]
      · simp [FileSymbols.adding, nonEmpty, empty]
  | other =>
      cases frames with
      | zero =>
          left
          exact ⟨turn_room_none (by simp [kind]), by simp [walkNode]⟩
      | succ left =>
          rw [turn_room_entered (Or.inl kind)]
          rcases walk_children_adds left symbols className child.children with
            ⟨tight, walked⟩ | ⟨room, functions, classes, imports, walked, adds⟩
          · exact Or.inl ⟨tight, by simp [walk_node_children, walked]⟩
          · refine Or.inr ⟨room, none, functions, none, none, classes, imports, ?_, turn_other kind adds⟩
            simp [walk_node_children, walked]
termination_by sizeOf child
decreasing_by all_goals exact children_smaller child

/-- The loop raises, or adds what is listed of the children; the induction is on the forest. -/
theorem walk_children_adds (frames : Nat) (symbols : FileSymbols) (className : Option (List Char))
    (forest : List Node) :
    (¬ Room frames forest ∧ walkChildren frames symbols className forest = none) ∨
      Room frames forest ∧ ∃ functions classes imports,
        walkChildren frames symbols className forest = some (symbols.adding functions classes imports) ∧
          Adds className forest functions classes imports := by
  cases forest with
  | nil =>
      refine Or.inr ⟨room_nil frames, [], [], [], ?_, adds_nil className⟩
      rw [walkChildren]
      simp [FileSymbols.adding]
  | cons child rest =>
      rw [room_cons, walkChildren]
      rcases walk_child_turn frames symbols className child with
        ⟨tight, turned⟩ | ⟨first, function, within, own, text, classes, imports, turned, turn⟩
      · refine Or.inl ⟨fun room => tight room.1, ?_⟩
        rw [turned]
        rfl
      · rw [turned, Option.bind_some]
        rcases walk_children_adds frames _ className rest with
          ⟨tight, walked⟩ | ⟨later, functions, others, texts, walked, after⟩
        · exact Or.inl ⟨fun room => tight room.2, walked⟩
        · refine Or.inr ⟨⟨first, later⟩, _, _, _, ?_, adds_cons turn after⟩
          rw [walked, adding_adding]
termination_by sizeOf forest
decreasing_by all_goals (simp; try omega)

end

/-- The walk raises where the stack has no room, and gives the symbols of the tree elsewhere. -/
theorem walk_symbols_of (frames : Nat) (path : List Char) (root : Node) :
    (¬ Fits frames root ∧ walkNode frames { path } none root = none) ∨
      Fits frames root ∧ ∃ symbols, walkNode frames { path } none root = some symbols ∧
        SymbolsOf path root symbols := by
  cases frames with
  | zero =>
      refine Or.inl ⟨fun fits => absurd fits.1 (lt_irrefl 0), ?_⟩
      rw [walkNode]
  | succ left =>
      rw [walk_node_children]
      rcases walk_children_adds left { path } none root.children with
        ⟨tight, walked⟩ | ⟨room, functions, classes, imports, walked, adds⟩
      · exact Or.inl ⟨fun fits => tight fits.2, walked⟩
      · exact Or.inr ⟨⟨Nat.succ_pos left, room⟩, _, walked, rfl, adds.functions, adds.classes, adds.imports⟩

theorem symbols_of_unique {path : List Char} {root : Node} {first second : FileSymbols}
    (one : SymbolsOf path root first) (other : SymbolsOf path root second) : first = second := by
  have named := one.path.trans other.path.symm
  have functions := listing_unique one.functions other.functions
  have classes := listing_unique one.classes other.classes
  have imports := listing_unique one.imports other.imports
  cases first
  cases second
  simp_all

/-- The walk over a tree gives the symbols of the tree, and nothing else is that, as long as the stack has
room for it. -/
theorem walked_iff_symbols_of (frames : Nat) (path : List Char) (root : Node) (symbols : FileSymbols) :
    walkNode frames { path } none root = some symbols ↔ Fits frames root ∧ SymbolsOf path root symbols := by
  rcases walk_symbols_of frames path root with ⟨tight, walked⟩ | ⟨fits, found, walked, spec⟩
  · rw [walked]
    apply iff_of_false
    · intro given
      cases given
    · intro both
      exact tight both.1
  · rw [walked]
    constructor
    · intro given
      cases given
      exact ⟨fits, spec⟩
    · intro both
      exact congrArg some (symbols_of_unique spec both.2)

end Bugalizer.RepoMap
