import CommitCharts.Yaml.Token

/-!
# CommitCharts.Yaml.Node — the tree of a document

A node is a scalar, a collection or the alias of a node elsewhere.  Where the text is malformed the tree breaks
off: a collection stays open, or a node is missing.  What went before is a tree all the same, so whoever reads it
in order meets the place where it breaks off and nothing behind it.
-/

namespace CommitCharts.Yaml

inductive Node where
  | scalar (mark : Mark) (anchor : Option String) (content : Scalar)
  | alias (mark : Mark) (name : String)
  | sequence (mark : Mark) (anchor : Option String) (items : List Node) (closed : Bool)
  | mapping (mark : Mark) (anchor : Option String) (entries : List (Node × Node)) (closed : Bool)
  | missing
  deriving Repr, Inhabited

namespace Node

/-- A plain scalar without text. -/
def empty (m : Mark) : Node := .scalar m none ⟨"", none, .plain⟩

def mark : Node → Mark
  | .scalar m .. => m
  | .alias m _ => m
  | .sequence m .. => m
  | .mapping m .. => m
  | .missing => {}

def anchor? : Node → Option String
  | .scalar _ a _ => a
  | .sequence _ a .. => a
  | .mapping _ a .. => a
  | .alias .. | .missing => none

mutual

/-- The nodes of a tree in the order in which they start. -/
def flatten : Node → List Node
  | .scalar m a s => [.scalar m a s]
  | .alias m name => [.alias m name]
  | .sequence m a items closed => .sequence m a items closed :: flattenItems items
  | .mapping m a entries closed => .mapping m a entries closed :: flattenEntries entries
  | .missing => []

def flattenItems : List Node → List Node
  | [] => []
  | x :: xs => flatten x ++ flattenItems xs

def flattenEntries : List (Node × Node) → List Node
  | [] => []
  | (k, v) :: es => flatten k ++ (flatten v ++ flattenEntries es)

end

end Node

/-- A stream of documents, as far as its first one goes. -/
structure Document where
  /-- The node of the first document; none if there is no document. -/
  root : Option Node
  /-- The end of the first document was found. -/
  whole : Bool
  /-- Nothing follows it. -/
  alone : Bool
  deriving Repr

namespace Document

/-- The nodes with an anchor, each with a number: how many different anchors went before.  An alias of a name that no
anchor before it has ends them. -/
def numbered (names : List String) : List Node → List (Nat × Node)
  | [] => []
  | .alias _ name :: xs => if names.contains name then numbered names xs else []
  | x :: xs =>
    match x.anchor? with
    | some a => (names.length, x) :: numbered (if names.contains a then names else a :: names) xs
    | none => numbered names xs

/-- The node that an alias stands for: the last anchor of that name before it gives the number, and the last node
of that number is meant. -/
def target? (d : Document) (m : Mark) (name : String) : Option Node :=
  let anchored := numbered [] ((d.root.map Node.flatten).getD [])
  match (anchored.filter fun e => e.2.mark.index < m.index && e.2.anchor? == some name).getLast? with
  | some (number, _) => ((anchored.filter (·.1 == number)).getLast?).map (·.2)
  | none => none

end Document

end CommitCharts.Yaml
