import CommitCharts.Catalog

/-!
# CommitCharts.Svg — vector drawings

A drawing is a size and a list of elements in painting order.  Its text has one element to a line, except
that the content of a text element has a line of its own.
-/

namespace CommitCharts.Svg

structure Point where
  x : Int
  y : Int
  deriving DecidableEq, Repr, Inhabited

inductive Anchor where
  | start
  | middle
  | finish
  deriving DecidableEq, Repr

inductive Element where
  /-- A line of text, turned about its point by `rotation` degrees. -/
  | text (origin : Point) (shift : String) (anchor : Anchor) (fontSize : String) (rotation : Option Nat)
      (content : String)
  /-- A rectangle by its corner with the smallest coordinates. -/
  | rect (corner : Point) (width height : Int) (opacity : String) (fill stroke : Option Rgb)
  | line (opacity : String) (source target : Point)
  | polyline (stroke : Rgb) (width : Nat) (points : List Point)
  | circle (center : Point) (radius : Nat) (fill : Rgb)
  deriving Repr

structure Drawing where
  width : UInt32
  height : UInt32
  elements : List Element
  deriving Repr

def black : Rgb := ⟨0, 0, 0⟩

def white : Rgb := ⟨255, 255, 255⟩

/-- The name space of the element names. -/
def nameSpace : String := String.join ["http:", "//www.w3.org", "/2000/svg"]

def hexByte (b : UInt8) : List Char :=
  [Nat.digitChar (b.toNat / 16), Nat.digitChar (b.toNat % 16)].map Char.toUpper

def color (c : Rgb) : String := String.ofList ('#' :: (hexByte c.red ++ hexByte c.green ++ hexByte c.blue))

def paint : Option Rgb → String
  | some c => color c
  | none => "none"

/-- A character of content or of an attribute; the five special ones are entities. -/
def escape (c : Char) : List Char :=
  if c = '<' then "&lt;".toList
  else if c = '>' then "&gt;".toList
  else if c = '&' then "&amp;".toList
  else if c = '"' then "&quot;".toList
  else if c = '\'' then "&apos;".toList
  else [c]

def field (name value : String) : String := " " ++ name ++ "=\"" ++ value ++ "\""

def fields (pairs : List (String × String)) : String :=
  String.join (pairs.map fun p => field p.1 p.2)

/-- The points of a polyline, each followed by a blank. -/
def pointList (points : List Point) : String :=
  String.join (points.map fun p => toString p.x ++ "," ++ toString p.y ++ " ")

def Anchor.name : Anchor → String
  | .start => "start"
  | .middle => "middle"
  | .finish => "end"

def Element.render : Element → String
  | .text p shift anchor fontSize rotation content =>
    let turn := match rotation with
      | some r => [("transform", "rotate(" ++ toString r ++ ", " ++ toString p.x ++ ", " ++ toString p.y ++ ")")]
      | none => []
    "<text" ++ fields ([("x", toString p.x), ("y", toString p.y), ("dy", shift),
      ("text-anchor", anchor.name), ("font-family", "sans-serif"), ("font-size", fontSize), ("opacity", "1"),
      ("fill", color black)] ++ turn) ++ ">\n" ++
      String.ofList (content.toList.flatMap escape) ++ "\n</text>\n"
  | .rect p width height opacity fill stroke =>
    "<rect" ++ fields [("x", toString p.x), ("y", toString p.y), ("width", toString width),
      ("height", toString height), ("opacity", opacity), ("fill", paint fill), ("stroke", paint stroke)] ++
      "/>\n"
  | .line opacity a b =>
    "<line" ++ fields [("opacity", opacity), ("stroke", color black), ("stroke-width", "1"),
      ("x1", toString a.x), ("y1", toString a.y), ("x2", toString b.x), ("y2", toString b.y)] ++ "/>\n"
  | .polyline stroke width points =>
    "<polyline" ++ fields [("fill", "none"), ("opacity", "1"), ("stroke", color stroke),
      ("stroke-width", toString width), ("points", pointList points)] ++ "/>\n"
  | .circle c radius fill =>
    "<circle" ++ fields [("cx", toString c.x), ("cy", toString c.y), ("r", toString radius),
      ("opacity", "1"), ("fill", color fill), ("stroke", "none"), ("stroke-width", "1")] ++ "/>\n"

namespace Drawing

def render (d : Drawing) : String :=
  let w := toString d.width
  let h := toString d.height
  "<svg" ++ fields [("width", w), ("height", h), ("viewBox", "0 0 " ++ w ++ " " ++ h),
    ("xmlns", nameSpace)] ++ ">\n" ++
    String.join (d.elements.map Element.render) ++ "</svg>\n"

/-- The contents of the text elements, other than those flushed right. -/
def texts (d : Drawing) : List String :=
  d.elements.filterMap fun
    | .text _ _ .finish _ _ _ => none
    | .text _ _ _ _ _ content => some content
    | _ => none

/-- The rectangles that show data, as corner, width, height and colour. -/
def dataRects (d : Drawing) : List (Point × Int × Int × Rgb) :=
  d.elements.filterMap fun
    | .rect p w h "0.8" (some fill) _ => some (p, w, h, fill)
    | _ => none

def circles (d : Drawing) : List (Point × Nat × Rgb) :=
  d.elements.filterMap fun
    | .circle c r fill => some (c, r, fill)
    | _ => none

/-- The line that shows data. -/
def dataLine (d : Drawing) : Option (Rgb × List Point) :=
  d.elements.findSome? fun
    | .polyline stroke 2 points => some (stroke, points)
    | _ => none

end Drawing

end CommitCharts.Svg
