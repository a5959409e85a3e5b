import PropertyGraph.Json.Source
import PropertyGraph.Yaml.Node

/-!
# YAML as a source

What typed reading finds in a YAML node.  What a scalar is depends on what is asked for: any
scalar is a text, a plain one may also be a number or null.
-/

namespace PropertyGraph.Yaml

/-- A node and the nodes that aliases in it stand for. -/
structure View where
  nodes : List (Nat × Node)
  node : Node

namespace View

/-- The node itself, or the one that an alias stands for. -/
def resolved (v : View) : Node :=
  match v.node with
  | .alias number => (v.nodes.lookup number).getD v.node
  | n => n

/-- Whether a text is one of the names of null. -/
def isNullName (s : String) : Bool := ["null", "Null", "NULL", "~"].contains s

/-- The tag of null. -/
def nullTag : String := "tag:yaml.org,2002:null"

/-- The tag of integers. -/
def integerTag : String := "tag:yaml.org,2002:int"

/-- Whether there is no value: a plain scalar that is empty or names null.  One that has the
tag of null has to name it; with another tag it is a value. -/
def null? (v : View) : Option Bool :=
  match v.resolved with
  | .scalar text .plain none => some (text.isEmpty || isNullName text)
  | .scalar text .plain (some tag) =>
    if tag = nullTag then (if isNullName text then some true else none) else some false
  | _ => some false

/-- The text of a scalar. -/
def text? (v : View) : Option String :=
  match v.resolved with
  | .scalar text _ _ => some text
  | _ => none

/-- The digits of a base, with nothing before them. -/
def digitsIn? (base : Nat) (cs : List Char) : Option Nat :=
  if cs.isEmpty then none
  else
    cs.foldlM (fun n c =>
      match Text.hexValue? c with
      | some d => if d < base then some (base * n + d) else none
      | none => none) 0

/-- A natural number of at most so many bits: in base 16, 8 or 2, or in base 10 without leading
zeros.  A plus sign may stand before it. -/
def naturalText? (bits : Nat) (s : String) : Option Nat :=
  let cs := match s.toList with
    | '+' :: rest => rest
    | cs => cs
  let value := match cs with
    | '0' :: 'x' :: rest => digitsIn? 16 rest
    | '0' :: 'o' :: rest => digitsIn? 8 rest
    | '0' :: 'b' :: rest => digitsIn? 2 rest
    | ['0'] => some 0
    | '0' :: _ => none
    | cs => digitsIn? 10 cs
  value.filter (· < Nat.pow 2 bits)

/-- A natural number of at most so many bits.  It is written plainly, or as a block that has
the tag of integers. -/
def natural? (bits : Nat) (v : View) : Option Nat :=
  match v.resolved with
  | .scalar text .plain _ => naturalText? bits text
  | .scalar text .literal (some tag) =>
    if tag = integerTag then naturalText? bits text else none
  | _ => none

/-- The items of a sequence.  What is not written at all has none. -/
def items? (v : View) : Option (List View) :=
  match v.resolved with
  | .sequence items _ => some (items.map (View.mk v.nodes))
  | .scalar "" .plain _ => some []
  | _ => none

/-- The members of a mapping, whose keys have to be scalars.  What is not written at all has
none. -/
def members? (v : View) : Option (List (String × View)) :=
  match v.resolved with
  | .mapping members _ =>
    members.mapM fun m => (text? ⟨v.nodes, m.1⟩).map fun key => (key, ⟨v.nodes, m.2⟩)
  | .scalar "" .plain _ => some []
  | _ => none

/-- The name of a choice: the text of a scalar, or the tag of one that has no value. -/
def choice? (v : View) : Option String :=
  match v.resolved with
  | .scalar text style tag =>
    match tag.map String.toList with
    | some ('!' :: name) =>
      -- The tag names the choice, so there must be nothing that it is the tag of.
      if style = .plain ∧ (text.isEmpty ∨ isNullName text) then
        some (if name.isEmpty then "!" else String.ofList name)
      else none
    | _ => some text
  | _ => none

/-- Nodes as a source. -/
def source : Source View where
  null? := null?
  text? := text?
  natural? := natural?
  items? := items?
  members? := members?
  fields? v := v.members?.map .named
  choice? := choice?

end View

/-- The document of a text, ready to be read. -/
def view? (s : String) : Option View := (parse? s).map fun d => ⟨d.nodes, d.root⟩

end PropertyGraph.Yaml
